import VersionOrder.Proofs.FamilyOrder

/-!
# The order of build parts

A build part can be read if no digit run in it is too long to be a number. On such parts the
comparison of build parts is a total preorder, and a comparator that looks at version parts first
and at build parts where they tie is one whenever its base is.

## Main definitions

- `ReadableBuild`: what the comparison of build parts needs of its texts
- `BuildToken.tokens`: the tokens of a readable text
-/

namespace VersionOrder

/-- No digit run of a build part exceeds the limit for numbers. -/
def ReadableBuild (text : Text) : Prop :=
  ∀ run ∈ BuildToken.runsOf text, run.all Char.isDigit = true → run.length ≤ Numeral.digitLimit

namespace BuildToken

/-- The token that a run writes if it is within the limit. -/
def token (run : Text) : BuildToken :=
  if run.all Char.isDigit then .number (Numeral.value run) else .word run

/-- The tokens of a readable text. -/
def tokens (s : Text) : List BuildToken :=
  (runsOf s).map token

theorem ofRun_eq {run : Text}
    (h : run.all Char.isDigit = true → run.length ≤ Numeral.digitLimit) :
    ofRun run = .ok (token run) := by
  by_cases hdigits : run.all Char.isDigit = true
  · simp only [ofRun, token, readNumber, Numeral.read?, if_pos hdigits, if_pos (h hdigits)]
    rfl
  · simp only [ofRun, token, if_neg hdigits]
    rfl

/-- A readable text is read. -/
theorem read_eq {s : Text} (h : ReadableBuild s) : read s = .ok (tokens s) := by
  -- The induction needs any list of runs, as the rest of a text's runs is no text's runs.
  have hruns : ∀ runs : List Text, (∀ run ∈ runs, ofRun run = .ok (token run)) →
      runs.mapM ofRun = .ok (runs.map token) := by
    intro runs hall
    induction runs with
    | nil => rfl
    | cons run runs ih =>
      rw [List.mapM_cons, hall run List.mem_cons_self,
        ih fun r hr => hall r (List.mem_cons_of_mem _ hr)]
      rfl
  exact hruns _ fun run hrun => ofRun_eq (h run hrun)

/-- The class of a token: numbers come before words. -/
def kind : BuildToken → Int
  | .number _ => 0
  | .word _ => 1

/-- The magnitude of a number; words have none. -/
def magnitude : BuildToken → Int
  | .number n => n
  | .word _ => 0

/-- The letters of a word in lower case; numbers have none. -/
def letters : BuildToken → Text
  | .number _ => []
  | .word s => Text.lower s

/-- Tokens differ in kind, else in magnitude, else in their letters. -/
theorem compare_eq (a b : BuildToken) :
    compare a b =
      if signum a.kind b.kind = 0 then
        if signum a.magnitude b.magnitude = 0 then Text.compare a.letters b.letters
        else signum a.magnitude b.magnitude
      else signum a.kind b.kind := by
  cases a with
  | number m =>
    cases b with
    | number n =>
      have hkind : signum (number m).kind (number n).kind = 0 := rfl
      rw [if_pos hkind]
      change signum m n = if signum m n = 0 then 0 else signum m n
      split
      next h => exact h
      next => rfl
    | word t => rfl
  | word s =>
    cases b with
    | number n => rfl
    | word t => rfl

theorem signPreorderOn_compare : SignPreorderOn compare fun _ => True := by
  have hkinds := signPreorderOn_signum.comap kind
  have hmagnitudes := signPreorderOn_signum.comap magnitude
  have hletters := Text.signPreorderOn_compare.comap letters
  have hall := hkinds.lex (hmagnitudes.lex hletters)
  simp only [← compare_eq] at hall
  exact hall

theorem compareAll_eq_head (left right : List BuildToken) :
    compareAll left right =
      if orMissing compare left.head? right.head? = 0 then compareAll left.tail right.tail
      else orMissing compare left.head? right.head? := by
  cases left with
  | nil => cases right <;> rfl
  | cons a left => cases right <;> rfl

/-- Token sequences are ordered by the first difference, a shorter sequence first. -/
theorem signPreorderOn_compareAll : SignPreorderOn compareAll fun _ => True := by
  have hlists := SignPreorderOn.ofHead _ rfl compareAll_eq_head signPreorderOn_compare.orMissing
  exact hlists.mono _ fun _ _ _ _ => trivial

/-- The tokens of a build part, unless the part is missing. -/
def tokens? : Text → Option (List BuildToken)
  | [] => none
  | s@(_ :: _) => some (tokens s)

end BuildToken

/-- The answer of the comparison of two readable build parts. -/
def buildAnswer (left right : Text) : Int :=
  orMissing BuildToken.compareAll (BuildToken.tokens? left) (BuildToken.tokens? right)

theorem compareBuilds_eq {left right : Text} (hl : ReadableBuild left) (hr : ReadableBuild right) :
    compareBuilds left right = .ok (buildAnswer left right) := by
  cases left with
  | nil => cases right <;> rfl
  | cons c left =>
    cases right with
    | nil => rfl
    | cons d right =>
      rw [compareBuilds, BuildToken.read_eq hl, BuildToken.read_eq hr]
      rfl

theorem signPreorderOn_buildAnswer : SignPreorderOn buildAnswer fun _ => True := by
  have hparts := BuildToken.signPreorderOn_compareAll.orMissing.comap BuildToken.tokens?
  exact hparts.mono _ fun _ _ _ _ => trivial

namespace Layout

/-- The answer of a layout's policy for two texts whose version parts tie. -/
def tieAnswer (layout : Layout) (left right : Text) : Int :=
  match layout.effectiveComparison with
  | .ignore => 0
  | .tokenCompare => buildAnswer (layout.split left).build (layout.split right).build

theorem tieAnswer_eq (layout : Layout) {left right : Text}
    (hl : layout.effectiveComparison = .tokenCompare → ReadableBuild (layout.split left).build)
    (hr : layout.effectiveComparison = .tokenCompare → ReadableBuild (layout.split right).build) :
    (match layout.effectiveComparison with
      | .ignore => .ok 0
      | .tokenCompare => compareBuilds (layout.split left).build (layout.split right).build :
      Except Fault Int) = .ok (layout.tieAnswer left right) := by
  unfold tieAnswer
  cases hpolicy : layout.effectiveComparison with
  | ignore => rfl
  | tokenCompare => exact compareBuilds_eq (hl hpolicy) (hr hpolicy)

theorem signPreorderOn_tieAnswer (layout : Layout) :
    SignPreorderOn layout.tieAnswer fun _ => True := by
  have hbuilds := signPreorderOn_buildAnswer.comap fun text => (layout.split text).build
  cases hpolicy : layout.effectiveComparison with
  | ignore =>
    refine SignPreorderOn.zero.congr ?_
    intro s t _ _
    rw [tieAnswer, hpolicy]
  | tokenCompare =>
    refine hbuilds.congr ?_
    intro s t _ _
    rw [tieAnswer, hpolicy]

end Layout

namespace Comparator

/-- A build-aware comparator orders what its base orders, if the build parts are readable wherever
they count. -/
theorem totalPreorderOn_versionParts {base : Comparator} {layout : Layout}
    {versions : Version → Prop} (hbase : TotalPreorderOn base.compare fun _ => True)
    (hread : layout.effectiveComparison = .tokenCompare →
      ∀ v, versions v → ReadableBuild (layout.split v.text).build) :
    TotalPreorderOn (buildAware base layout).compare versions := by
  obtain ⟨answer, hanswer, horder⟩ := hbase
  refine ⟨fun v w =>
    if answer ⟨(layout.split v.text).version⟩ ⟨(layout.split w.text).version⟩ = 0 then
      layout.tieAnswer v.text w.text
    else answer ⟨(layout.split v.text).version⟩ ⟨(layout.split w.text).version⟩, ?_, ?_⟩
  · intro v w hv hw
    simp only [compare, hanswer _ _ trivial trivial]
    by_cases htie : answer ⟨(layout.split v.text).version⟩ ⟨(layout.split w.text).version⟩ = 0
    · rw [htie, if_pos rfl]
      exact layout.tieAnswer_eq (hread · v hv) (hread · w hw)
    · rw [if_neg htie]
      exact if_neg htie
  · have hversions := horder.comap fun v : Version => ⟨(layout.split v.text).version⟩
    have hties := layout.signPreorderOn_tieAnswer.comap Version.text
    exact (hversions.lex hties).mono _ fun _ _ => trivial

/-- Build parts whose numbers can be read are ordered; and a comparator that lets such parts decide
where the version parts tie under an ordered base orders all versions with such build parts. -/
theorem totalPreorderOn_buildAware :
    TotalPreorderOn compareBuilds ReadableBuild ∧
      ∀ (base : Comparator) (layout : Layout), TotalPreorderOn base.compare (fun _ => True) →
        TotalPreorderOn (buildAware base layout).compare
          fun v => ReadableBuild (layout.split v.text).build := by
  constructor
  · have hbuilds := signPreorderOn_buildAnswer.mono ReadableBuild fun _ _ => trivial
    exact (totalPreorderOn_iff fun _ _ => compareBuilds_eq).2 hbuilds
  · intro base layout hbase
    exact totalPreorderOn_versionParts hbase fun _ _ hv => hv

/-- Semantic versioning is such a base, with build parts after a plus sign. -/
theorem totalPreorderOn_buildAware_semver :
    TotalPreorderOn Comparator.semver.compare (fun _ => True) ∧
      TotalPreorderOn (buildAware .semver Layout.buildAfterPlusOrdered).compare
        fun v => ReadableBuild (Layout.buildAfterPlusOrdered.split v.text).build := by
  have hbase : TotalPreorderOn Comparator.semver.compare fun _ => True :=
    (totalPreorderOn_iff fun _ _ _ _ => rfl).2 Semver.signPreorderOn_compare
  exact ⟨hbase, totalPreorderOn_buildAware.2 .semver Layout.buildAfterPlusOrdered hbase⟩

end Comparator

namespace Scheme

/-- A scheme orders what its comparator orders, if build parts are readable wherever they count. -/
theorem totalPreorderOn_compare {scheme : Scheme} {versions : Version → Prop}
    (hbase : TotalPreorderOn scheme.comparator.compare fun _ => True)
    (hread : scheme.layout.effectiveComparison = .tokenCompare →
      ∀ v, versions v → ReadableBuild (scheme.layout.split v.text).build) :
    TotalPreorderOn scheme.compare versions := by
  change TotalPreorderOn (fun v w => scheme.precedence.compare v w) versions
  unfold precedence
  split
  next => exact Comparator.totalPreorderOn_versionParts hbase hread
  next => exact hbase.mono versions fun _ _ => trivial

/-- Where build parts never count, the order of semantic versioning covers all versions. -/
theorem totalPreorderOn_semverDefault : TotalPreorderOn semverDefault.compare fun _ => True := by
  refine totalPreorderOn_compare ?_ fun htokens => ?_
  · exact (totalPreorderOn_iff fun _ _ _ _ => rfl).2 Semver.signPreorderOn_compare
  · exact nomatch htokens

end Scheme

end VersionOrder
