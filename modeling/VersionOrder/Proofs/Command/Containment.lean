import VersionOrder.Proofs.Command.Running

/-!
# Containment agrees with comparison

Whether a version lies in a range is told by the signs between the version and the bounds, and
whether the range can be formed by the sign between the bounds. Nothing is asked of the order: only
the comparisons at hand have to answer.

## Main definitions

- `RangeOptions.Compares`: the pairs of texts that decide about a version and a range
- `RangeOptions.EmptyBy`, `RangeOptions.AdmitsBy`: the decisions, from the signs between texts
- `Scheme.Signs`: the sign between two texts under a scheme
-/

namespace VersionOrder

namespace Command

theorem exists_sign (result : Int) : ∃ symbol, sign result = [symbol] := by
  unfold sign
  split
  · exact ⟨_, rfl⟩
  · split
    · exact ⟨_, rfl⟩
    · exact ⟨_, rfl⟩

/-- A sign tells which way a comparison went. -/
theorem of_sign_eq {result : Int} {symbol : Char} (h : sign result = [symbol]) :
    (symbol = '<' ↔ result < 0) ∧ (symbol = '=' ↔ result = 0) ∧ (symbol = '>' ↔ 0 < result) := by
  unfold sign at h
  split at h
  next hneg =>
    obtain rfl : '<' = symbol := List.singleton_inj.1 h
    exact ⟨by simpa using hneg, by simpa using Int.ne_of_lt hneg, by simpa using Int.le_of_lt hneg⟩
  next hle =>
    split at h
    next hpos =>
      obtain rfl : '>' = symbol := List.singleton_inj.1 h
      exact ⟨by simpa using hle, by simpa using (Int.ne_of_lt hpos).symm, by simpa using hpos⟩
    next hge =>
      obtain rfl : '=' = symbol := List.singleton_inj.1 h
      have hzero : result = 0 := by omega
      exact ⟨by simp [hzero], by simp [hzero], by simp [hzero]⟩

end Command

/-- Under the scheme, two texts compare, and this is the sign between them. -/
def Scheme.Signs (scheme : Scheme) (left right : Text) (symbol : Char) : Prop :=
  ∃ result, scheme.compare (scheme.parse left) (scheme.parse right) = .ok result ∧
    Command.sign result = [symbol]

namespace RangeOptions

/-- Whether a version lies in a range depends on how these two texts compare: the two bounds, or the
version and a bound. -/
def Compares (range : RangeOptions) (version left right : Text) : Prop :=
  (range.lower? = some left ∧ range.upper? = some right) ∨
    (left = version ∧ (range.lower? = some right ∨ range.upper? = some right))

/-- By the sign between its bounds, a range has no room: they stand the wrong way round, or they
tie and one is excluded. -/
def EmptyBy (sign : Text → Text → Char) (range : RangeOptions) : Prop :=
  ∃ lower upper, range.lower? = some lower ∧ range.upper? = some upper ∧
    (sign lower upper = '>' ∨
      (sign lower upper = '=' ∧ (range.lowerOpen = true ∨ range.upperOpen = true)))

/-- By the signs between a version and the bounds, the version lies in the range. -/
def AdmitsBy (sign : Text → Text → Char) (range : RangeOptions) (version : Text) : Prop :=
  (∀ lower, range.lower? = some lower →
    sign version lower = '>' ∨ (sign version lower = '=' ∧ range.lowerOpen = false)) ∧
  ∀ upper, range.upper? = some upper →
    sign version upper = '<' ∨ (sign version upper = '=' ∧ range.upperOpen = false)

/-- The endpoint that a bound makes under a scheme. -/
def endpoint (scheme : Scheme) (bound? : Option Text) (isOpen : Bool) : Endpoint Version :=
  match bound? with
  | none => .unbounded
  | some bound => .bounded (!isOpen) (scheme.parse bound)

theorem make_boundary_eq (scheme : Scheme) (side : Side) (bound? : Option Text) (isOpen : Bool) :
    Endpoint.make side (boundary bound? isOpen) ((bound?.map VersionInput.text).map scheme.read) =
      .ok (endpoint scheme bound? isOpen) := by
  cases bound? with
  | none => rfl
  | some bound => cases isOpen <;> rfl

/-- The interval of a range lies between the endpoints that its bounds make. -/
theorem interval_eq (range : RangeOptions) (scheme : Scheme) :
    range.interval scheme =
      (Interval.ofEndpoints scheme.domain (endpoint scheme range.lower? range.lowerOpen)
        (endpoint scheme range.upper? range.upperOpen)).map (⟨scheme, ·⟩) := by
  simp only [interval, VersionInterval.make, Interval.make, make_boundary_eq, bind, Except.bind]
  cases Interval.ofEndpoints scheme.domain (endpoint scheme range.lower? range.lowerOpen)
    (endpoint scheme range.upper? range.upperOpen) <;> rfl

section Signs

variable {scheme : Scheme} {range : RangeOptions} {version : Text} {sign : Text → Text → Char}
  (hsign : ∀ left right, range.Compares version left right →
    scheme.Signs left right (sign left right))

include hsign

/-- A range without room cannot be formed. -/
theorem interval_of_emptyBy (hempty : range.EmptyBy sign) :
    ∃ cause, range.interval scheme = .error (.interval cause) := by
  obtain ⟨lower, upper, hlower, hupper, hroom⟩ := hempty
  obtain ⟨result, hresult, hsymbol⟩ := hsign lower upper (.inl ⟨hlower, hupper⟩)
  obtain ⟨-, htie, hgreater⟩ := Command.of_sign_eq hsymbol
  have hcompare : scheme.domain.compare (scheme.parse lower) (scheme.parse upper) = .ok result :=
    hresult
  rw [interval_eq, hlower, hupper]
  simp only [endpoint, Interval.ofEndpoints, hcompare, bind, Except.bind]
  by_cases hpos : 0 < result
  · exact ⟨_, by rw [if_pos hpos]; rfl⟩
  · have hopen : result = 0 ∧ ¬((!range.lowerOpen) = true ∧ (!range.upperOpen) = true) := by
      rcases hroom with hsign | ⟨hsign, hopen⟩
      · exact absurd (hgreater.1 hsign) hpos
      · refine ⟨htie.1 hsign, ?_⟩
        rintro ⟨hlowerClosed, hupperClosed⟩
        rcases hopen with hopen | hopen
        · simp [hopen] at hlowerClosed
        · simp [hopen] at hupperClosed
    exact ⟨_, by rw [if_neg hpos, if_pos hopen]; rfl⟩

/-- A range with room is formed as it stands. -/
theorem interval_of_not_emptyBy (hroom : ¬range.EmptyBy sign) :
    range.interval scheme = .ok ⟨scheme, endpoint scheme range.lower? range.lowerOpen,
      endpoint scheme range.upper? range.upperOpen⟩ := by
  rw [interval_eq]
  cases hlower : range.lower? with
  | none => rfl
  | some lower =>
    cases hupper : range.upper? with
    | none => rfl
    | some upper =>
      obtain ⟨result, hresult, hsymbol⟩ := hsign lower upper (.inl ⟨hlower, hupper⟩)
      obtain ⟨-, htie, hgreater⟩ := Command.of_sign_eq hsymbol
      have hcompare : scheme.domain.compare (scheme.parse lower) (scheme.parse upper) =
        .ok result := hresult
      have hle : ¬0 < result := by
        intro hpos
        exact hroom ⟨lower, upper, hlower, hupper, .inl (hgreater.2 hpos)⟩
      have hclosed :
          ¬(result = 0 ∧ ¬((!range.lowerOpen) = true ∧ (!range.upperOpen) = true)) := by
        rintro ⟨hzero, hopen⟩
        refine hroom ⟨lower, upper, hlower, hupper, .inr ⟨htie.2 hzero, ?_⟩⟩
        cases hlowerOpen : range.lowerOpen with
        | true => exact .inl rfl
        | false =>
          cases hupperOpen : range.upperOpen with
          | true => exact .inr rfl
          | false => exact absurd ⟨by simp [hlowerOpen], by simp [hupperOpen]⟩ hopen
      simp only [endpoint, Interval.ofEndpoints, hcompare, bind, Except.bind, if_neg hle,
        if_neg hclosed]
      rfl

theorem admitsFromLeft_iff : ∃ inside,
    Interval.admitsFromLeft scheme.domain (endpoint scheme range.lower? range.lowerOpen)
      (scheme.parse version) = .ok inside ∧
    (inside = true ↔ ∀ lower, range.lower? = some lower →
      sign version lower = '>' ∨ (sign version lower = '=' ∧ range.lowerOpen = false)) := by
  cases hlower : range.lower? with
  | none => exact ⟨true, rfl, by simp⟩
  | some lower =>
    obtain ⟨result, hresult, hsymbol⟩ := hsign version lower (.inr ⟨rfl, .inl hlower⟩)
    obtain ⟨-, htie, hgreater⟩ := Command.of_sign_eq hsymbol
    have hcompare : scheme.domain.compare (scheme.parse version) (scheme.parse lower) =
      .ok result := hresult
    refine ⟨!(result < 0 || (result = 0 && !!range.lowerOpen)), ?_, ?_⟩
    · simp only [endpoint, Interval.admitsFromLeft, hcompare, bind, Except.bind]
      rfl
    · simp only [Option.some.injEq, forall_eq', htie, hgreater]
      cases range.lowerOpen <;> simp <;> omega

theorem admitsFromRight_iff : ∃ inside,
    Interval.admitsFromRight scheme.domain (endpoint scheme range.upper? range.upperOpen)
      (scheme.parse version) = .ok inside ∧
    (inside = true ↔ ∀ upper, range.upper? = some upper →
      sign version upper = '<' ∨ (sign version upper = '=' ∧ range.upperOpen = false)) := by
  cases hupper : range.upper? with
  | none => exact ⟨true, rfl, by simp⟩
  | some upper =>
    obtain ⟨result, hresult, hsymbol⟩ := hsign version upper (.inr ⟨rfl, .inr hupper⟩)
    obtain ⟨hless, htie, -⟩ := Command.of_sign_eq hsymbol
    have hcompare : scheme.domain.compare (scheme.parse version) (scheme.parse upper) =
      .ok result := hresult
    refine ⟨!(0 < result || (result = 0 && !!range.upperOpen)), ?_, ?_⟩
    · simp only [endpoint, Interval.admitsFromRight, hcompare, bind, Except.bind]
      rfl
    · simp only [Option.some.injEq, forall_eq', htie, hless]
      cases range.upperOpen <;> simp <;> omega

/-- Membership in a range is told by the signs between the version and the bounds. -/
theorem contains_iff : ∃ inside,
    VersionInterval.contains ⟨scheme, endpoint scheme range.lower? range.lowerOpen,
      endpoint scheme range.upper? range.upperOpen⟩ (scheme.parse version) = .ok inside ∧
    (inside = true ↔ range.AdmitsBy sign version) := by
  obtain ⟨clearsLower, hlower, hlowerIff⟩ := admitsFromLeft_iff hsign
  obtain ⟨clearsUpper, hupper, hupperIff⟩ := admitsFromRight_iff hsign
  refine ⟨clearsLower && clearsUpper, ?_, ?_⟩
  · simp only [VersionInterval.contains, Interval.contains, hlower, bind, Except.bind]
    cases clearsLower with
    | true => exact hupper
    | false => rfl
  · rw [Bool.and_eq_true, hlowerIff, hupperIff, AdmitsBy]

end Signs

end RangeOptions

/-! ## The two commands -/

namespace Command

open Logged

/-- The verdict is the last word of its line. -/
theorem prints_verdict {report : Report} {version : Text} {shown verdict : String}
    (h : report.output = [.ofText (version ++ s!" in {shown}: {verdict}".toList)]) :
    report.Prints verdict := by
  have hcolon : ": ".toList = ":".toList ++ [' '] := rfl
  have hline : version ++ s!" in {shown}: {verdict}".toList =
      (version ++ s!" in {shown}:".toList) ++ ' ' :: verdict.toList := by
    simp [toString, hcolon]
  rw [hline] at h
  exact Report.prints_of_output h

theorem prints_yes_iff {report : Report} {inside : Bool}
    (h : report.Prints (if inside then "yes" else "no")) :
    (report.Prints "yes" ↔ inside = true) ∧ (report.Prints "no" ↔ inside = false) := by
  have hno : ' ' ∉ "no".toList := by decide
  have hyes : ' ' ∉ "yes".toList := by decide
  cases inside with
  | true =>
    have hother : ¬report.Prints "no" := by
      intro hprints
      exact absurd (h.unique hprints hyes hno) (by decide)
    exact ⟨iff_of_true h rfl, iff_of_false hother (by decide)⟩
  | false =>
    have hother : ¬report.Prints "yes" := by
      intro hprints
      exact absurd (h.unique hprints hno hyes) (by decide)
    exact ⟨iff_of_false hother (by decide), iff_of_true h rfl⟩

section Session

variable {console : Console} {session : Session} {scheme? : Option String} {scheme : Scheme}
  (hscheme : session.scheme scheme? = .ok scheme)

include hscheme

theorem gives_compare (left right : Text) :
    Gives ((Command.compare left right scheme?).answer console session) (do
      let result ← scheme.compare (scheme.parse left) (scheme.parse right)
      return { output := [.ofText (left ++ ' ' :: sign result ++ ' ' :: right)] }) := by
  rw [answer, hscheme]
  refine (gives_ofExcept (.ok scheme)).bind_ok ?_
  refine (gives_compareLogged scheme _ _).bind ?_
  exact fun result _ => gives_pure _

theorem gives_contains (version : Text) (range : RangeOptions) (strict : Bool) :
    Gives ((Command.contains version range scheme? strict).answer console session) (do
      let interval ← range.interval scheme
      let inside ← interval.contains (scheme.parse version)
      let verdict := if inside then "yes" else "no"
      return {
        output := [.ofText (version ++ s!" in {interval.render}: {verdict}".toList)]
        exitCode := if strict && !inside then 1 else 0 }) := by
  rw [answer, hscheme]
  refine (gives_ofExcept (.ok scheme)).bind_ok ?_
  refine (gives_remark _).bind_ok ?_
  refine (gives_ofExcept _).bind ?_
  intro interval _
  refine (gives_remark _).bind_ok ?_
  refine (gives_ofExcept _).bind ?_
  exact fun inside _ => gives_pure _

variable {threshold : LogLevel} {log : List LogRecord}

/-- A sign that is printed between two texts is the sign between them. -/
theorem signs_of_output {left right : Text} {symbol : Char}
    (h : ((Command.compare left right scheme?).report console session threshold log).output =
      [.ofText (left ++ ' ' :: symbol :: ' ' :: right)]) : scheme.Signs left right symbol := by
  obtain ⟨logged, hreport⟩ := report_of_gives (gives_compare hscheme left right) threshold log
  rw [hreport] at h
  cases hresult : scheme.compare (scheme.parse left) (scheme.parse right) with
  | error fault =>
    rw [hresult] at h
    cases h
  | ok result =>
    obtain ⟨printed, hprinted⟩ := exists_sign result
    refine ⟨result, hresult, ?_⟩
    rw [hresult] at h
    have hline : left ++ ' ' :: ([printed] ++ ' ' :: right) =
        left ++ ' ' :: ([symbol] ++ ' ' :: right) := by
      apply String.ofList_injective
      simpa [Output.ofText, hprinted, bind, Except.bind, pure, Except.pure] using h
    have hrest := List.append_cancel_left hline
    simp only [List.cons_append, List.nil_append, List.cons.injEq] at hrest
    rw [hprinted, hrest.2.1]

/-- The report of a containment is told by the signs between the version and the bounds. -/
theorem report_contains {version : Text} {range : RangeOptions} {strict : Bool}
    {sign : Text → Text → Char}
    (hsign : ∀ left right, range.Compares version left right →
      scheme.Signs left right (sign left right)) {report : Report}
    (hreport : (Command.contains version range scheme? strict).report console session threshold
      log = report) :
    (report.exitCode = 20 ↔ range.EmptyBy sign) ∧
      (¬range.EmptyBy sign →
        (report.Prints "yes" ↔ range.AdmitsBy sign version) ∧
        (report.Prints "no" ↔ ¬range.AdmitsBy sign version) ∧
        (report.exitCode = 1 ↔ strict = true ∧ ¬range.AdmitsBy sign version) ∧
        (report.exitCode = 0 ↔ ¬(strict = true ∧ ¬range.AdmitsBy sign version))) := by
  obtain ⟨logged, hgives⟩ := report_of_gives (gives_contains hscheme version range strict)
    threshold log
  rw [hreport] at hgives
  by_cases hempty : range.EmptyBy sign
  · obtain ⟨cause, hrefused⟩ := RangeOptions.interval_of_emptyBy hsign hempty
    rw [hrefused] at hgives
    have hexit : report.exitCode = 20 := congrArg Report.exitCode hgives
    exact ⟨iff_of_true hexit hempty, fun hroom => absurd hempty hroom⟩
  · obtain ⟨inside, hcontains, hinside⟩ := RangeOptions.contains_iff hsign
    rw [RangeOptions.interval_of_not_emptyBy hsign hempty] at hgives
    simp only [bind, Except.bind, hcontains, pure, Except.pure] at hgives
    have hexit : report.exitCode = if (strict && !inside) = true then 1 else 0 :=
      congrArg Report.exitCode hgives
    obtain ⟨hyes, hno⟩ := prints_yes_iff (prints_verdict (congrArg Report.output hgives))
    rw [hexit, hyes, hno, ← hinside]
    refine ⟨iff_of_false ?_ hempty, fun _ => ⟨Iff.rfl, ?_⟩⟩
    · cases strict <;> cases inside <;> decide
    · cases strict <;> cases inside <;> decide

end Session

/-- The two commands agree. Whether a range can be formed, and whether a version lies in it, is told
by the signs that comparing prints between the texts, whatever order the scheme has, and however
command lines are parsed. -/
theorem contains_agrees_with_compare (host : Host) (files : FilePath → FileState)
    (environment : List (String × String)) (settingsPath? scheme? : Option String)
    (settings : Settings)
    (hsettings : Settings.load host.readers files (settingsPath?.map FilePath.ofString)
      environment = .ok settings)
    (registry : Registry)
    (hregistry : Settings.registerAll Registry.builtin settings.definitions = (registry, none))
    (scheme : Scheme) (hscheme : Session.scheme ⟨settings, registry⟩ scheme? = .ok scheme)
    (version : Text) (range : RangeOptions) (strict : Bool) (sign : Text → Text → Char)
    (hsign : ∀ left right, range.Compares version left right → ∃ words report,
      (Command.compare left right scheme?).SpelledBy host.parser settingsPath? words ∧
      run host files environment words = .finished report ∧
      report.output = [.ofText (left ++ ' ' :: sign left right :: ' ' :: right)])
    (words : List Text)
    (hwords : (Command.contains version range scheme? strict).SpelledBy host.parser settingsPath?
      words) :
    ∃ report, run host files environment words = .finished report ∧
      (report.exitCode = 20 ↔ range.EmptyBy sign) ∧
      (¬range.EmptyBy sign →
        (report.Prints "yes" ↔ range.AdmitsBy sign version) ∧
        (report.Prints "no" ↔ ¬range.AdmitsBy sign version) ∧
        (report.exitCode = 1 ↔ strict = true ∧ ¬range.AdmitsBy sign version) ∧
        (report.exitCode = 0 ↔ ¬(strict = true ∧ ¬range.AdmitsBy sign version))) := by
  have hsigns : ∀ left right, range.Compares version left right →
      scheme.Signs left right (sign left right) := by
    intro left right hpair
    obtain ⟨others, printed, hothers, hprinted, houtput⟩ := hsign left right hpair
    obtain ⟨threshold, log, hrun⟩ := run_of_spelledBy hothers hsettings hregistry
    rw [hrun] at hprinted
    cases hprinted
    exact signs_of_output hscheme houtput
  obtain ⟨threshold, log, hrun⟩ := run_of_spelledBy hwords hsettings hregistry
  exact ⟨_, hrun, report_contains hscheme hsigns rfl⟩

/-- Version `1.5` lies in `[1, 2)` under the default scheme of semantic versioning: comparing prints
that it comes after `1` and before `2`, and that `1` comes before `2`. -/
theorem contains_agrees_with_compare_semver :
    let host : Host :=
      { readers := ⟨fun _ => .error .malformed, fun _ => .error .malformed, 985, 985⟩
        parser := Parser.longNames
        console := ⟨id, fun _ => .ok []⟩ }
    ∃ report,
      run host (fun _ => .missing) []
        ["contains".toList, ['1', '.', '5'], "--lower".toList, ['1'], "--upper".toList, ['2'],
          "--upper-open".toList, "--strict".toList, "--scheme".toList, "semver-default".toList] =
        .finished report ∧
      report.Prints "yes" ∧ report.exitCode = 0 := by
  intro host
  let range : RangeOptions := { lower? := some ['1'], upper? := some ['2'], upperOpen := true }
  let sign : Text → Text → Char := fun _ right => if right = ['1'] then '>' else '<'
  have hsign : ∀ left right, range.Compares ['1', '.', '5'] left right → ∃ words report,
      (Command.compare left right (some "semver-default")).SpelledBy host.parser none words ∧
      run host (fun _ => .missing) [] words = .finished report ∧
      report.output = [.ofText (left ++ ' ' :: sign left right :: ' ' :: right)] := by
    intro left right hpair
    refine ⟨["compare".toList, left, right, "--scheme".toList, "semver-default".toList], ?_⟩
    rcases hpair with ⟨hlower, hupper⟩ | ⟨rfl, hlower | hupper⟩
    · obtain rfl : ['1'] = left := Option.some.inj hlower
      obtain rfl : ['2'] = right := Option.some.inj hupper
      exact ⟨_, ⟨{ verb := .compare, words := _ }, rfl, rfl, rfl⟩, rfl, rfl⟩
    · obtain rfl : ['1'] = right := Option.some.inj hlower
      exact ⟨_, ⟨{ verb := .compare, words := _ }, rfl, rfl, rfl⟩, rfl, rfl⟩
    · obtain rfl : ['2'] = right := Option.some.inj hupper
      exact ⟨_, ⟨{ verb := .compare, words := _ }, rfl, rfl, rfl⟩, rfl, rfl⟩
  have hwords : (Command.contains ['1', '.', '5'] range (some "semver-default") true).SpelledBy
      host.parser none
      ["contains".toList, ['1', '.', '5'], "--lower".toList, ['1'], "--upper".toList, ['2'],
        "--upper-open".toList, "--strict".toList, "--scheme".toList, "semver-default".toList] :=
    ⟨{ verb := .contains, words := _ }, rfl, rfl, rfl⟩
  obtain ⟨report, hrun, -, hverdict⟩ := contains_agrees_with_compare host (fun _ => .missing) []
    none (some "semver-default") {} rfl Registry.builtin rfl .semverDefault rfl ['1', '.', '5']
    range true sign hsign _ hwords
  have hroom : ¬range.EmptyBy sign := by
    rintro ⟨lower, upper, hlower, hupper, hsigns⟩
    obtain rfl : ['1'] = lower := Option.some.inj hlower
    obtain rfl : ['2'] = upper := Option.some.inj hupper
    exact absurd hsigns (by decide)
  have hadmits : range.AdmitsBy sign ['1', '.', '5'] := by
    constructor
    · rintro lower hlower
      obtain rfl : ['1'] = lower := Option.some.inj hlower
      exact .inl rfl
    · rintro upper hupper
      obtain rfl : ['2'] = upper := Option.some.inj hupper
      exact .inl rfl
  obtain ⟨hyes, -, -, hzero⟩ := hverdict hroom
  exact ⟨report, hrun, hyes.2 hadmits, hzero.2 fun hfailed => hfailed.2 hadmits⟩

end Command

end VersionOrder
