import VersionOrder.Proofs.Interval.Answers
import VersionOrder.Proofs.Sequence

/-!
# The order of endpoints

Left endpoints are ordered by what they cut off: one without bound first, then by value, a closed
one before an open one at the same value. The later of two left endpoints is their maximum in this
order, and an endpoint leaves all the room that a later one leaves. Right endpoints are left
endpoints of the reversed order.

## Main definitions

- `Endpoint.bound?`: what an endpoint is ordered by
- `Interval.compareLeftBy`: the order of left endpoints on known answers
-/

namespace VersionOrder

variable {α : Type}

/-- The bound of an endpoint, if it has one, and whether the bound belongs to the interval. -/
def Endpoint.bound? : Endpoint α → Option (Bool × α)
  | .unbounded => none
  | .bounded closed value => some (closed, value)

theorem Endpoint.Within.of_mem_bound? {values : α → Prop} {e : Endpoint α} (h : e.Within values) :
    ∀ bound ∈ e.bound?, values bound.2 := by
  cases e with
  | unbounded => exact fun _ hbound => nomatch hbound
  | bounded closed value =>
    intro bound hbound
    cases hbound
    exact h

namespace Interval

variable {answer : α → α → Int} {values : α → Prop}

/-- How much a left endpoint cuts off at its value: a closed one nothing, an open one the value. -/
def cutAt (closed : Bool) : Int :=
  if closed then 0 else 1

/-- The order of two bounds on the left: by value, a closed one before an open one. -/
def compareBoundBy (answer : α → α → Int) (mine theirs : Bool × α) : Int :=
  if answer mine.2 theirs.2 = 0 then signum (cutAt mine.1) (cutAt theirs.1)
  else answer mine.2 theirs.2

/-- The order of left endpoints. -/
def compareLeftBy (answer : α → α → Int) (mine theirs : Endpoint α) : Int :=
  orMissing (compareBoundBy answer) mine.bound? theirs.bound?

section Bounded

variable {a b : α} {mineClosed theirsClosed : Bool}

@[simp]
theorem compareLeftBy_unbounded_bounded :
    compareLeftBy answer .unbounded (.bounded theirsClosed b) = -1 := rfl

@[simp]
theorem compareLeftBy_bounded_unbounded :
    compareLeftBy answer (.bounded mineClosed a) .unbounded = 1 := rfl

@[simp]
theorem compareLeftBy_unbounded_unbounded :
    compareLeftBy answer (.unbounded : Endpoint α) .unbounded = 0 := rfl

theorem compareLeftBy_of_ne (hne : answer a b ≠ 0) :
    compareLeftBy answer (.bounded mineClosed a) (.bounded theirsClosed b) = answer a b :=
  if_neg hne

theorem compareLeftBy_of_eq (htie : answer a b = 0) :
    compareLeftBy answer (.bounded mineClosed a) (.bounded theirsClosed b) =
      signum (cutAt mineClosed) (cutAt theirsClosed) :=
  if_pos htie

end Bounded

/-- The order of left endpoints is a function of the answers. -/
theorem compareLeft_eq {domain : Domain α} (h : domain.AnswersOn answer values)
    {mine theirs : Endpoint α} (hmine : mine.Within values) (htheirs : theirs.Within values) :
    compareLeft domain mine theirs = .ok (compareLeftBy answer mine theirs) := by
  cases mine with
  | unbounded => cases theirs <;> rfl
  | bounded mineClosed a =>
    cases theirs with
    | unbounded => rfl
    | bounded theirsClosed b =>
      rw [compareLeft, h a b hmine htheirs]
      change (if answer a b ≠ 0 then Except.ok (answer a b) else _) =
        Except.ok (if answer a b = 0 then _ else answer a b)
      by_cases htie : answer a b = 0
      · rw [if_neg fun hne => hne htie, if_pos htie]
        cases mineClosed <;> cases theirsClosed <;> rfl
      · rw [if_pos htie, if_neg htie]

section Order

variable (h : SignPreorderOn answer values)

include h

theorem signPreorderOn_compareBoundBy :
    SignPreorderOn (compareBoundBy answer) fun bound => values bound.2 := by
  have hvalues := h.comap fun bound : Bool × α => bound.2
  have hcuts := (signPreorderOn_signum.comap fun bound : Bool × α => cutAt bound.1).mono
    (fun bound => values bound.2) fun _ _ => trivial
  exact hvalues.lex hcuts

/-- Left endpoints are totally ordered. -/
theorem signPreorderOn_compareLeftBy :
    SignPreorderOn (compareLeftBy answer) fun e => e.Within values :=
  (((signPreorderOn_compareBoundBy h).orMissing).comap Endpoint.bound?).mono _
    fun _ he => he.of_mem_bound?

/-- The later of two left endpoints ties with the second one if that is not before the first one,
and with the first one otherwise. -/
theorem laterBy_cases {mine theirs : Endpoint α} (hmine : mine.Within values)
    (htheirs : theirs.Within values) :
    (compareLeftBy answer mine theirs ≤ 0 ∧
      compareLeftBy answer (laterBy answer mine theirs) theirs = 0) ∨
    (compareLeftBy answer theirs mine ≤ 0 ∧
      compareLeftBy answer (laterBy answer mine theirs) mine = 0) := by
  have horder := signPreorderOn_compareLeftBy h
  cases mine with
  | unbounded =>
    refine .inl ⟨?_, horder.self htheirs⟩
    cases theirs <;> simp
  | bounded mineClosed a =>
    cases theirs with
    | unbounded => exact .inr ⟨by simp, horder.self hmine⟩
    | bounded theirsClosed b =>
      obtain hlt | htie | hgt := Int.lt_trichotomy (answer a b) 0
      · rw [laterBy, if_neg (by omega), if_pos hlt]
        refine .inl ⟨?_, horder.self htheirs⟩
        rw [compareLeftBy_of_ne (Int.ne_of_lt hlt)]
        exact Int.le_of_lt hlt
      · have hback : answer b a = 0 := (h.eq_zero_iff hmine htheirs).1 htie
        rw [laterBy, if_neg (by omega), if_neg (by omega)]
        cases theirsClosed with
        -- The second endpoint cuts off nothing more, so the result is the first one.
        | true =>
          rw [Bool.and_true, compareLeftBy_of_eq hback]
          exact .inr ⟨by cases mineClosed <;> decide, horder.self hmine⟩
        -- The result is open as the second endpoint is, but shows the value of the first one.
        | false =>
          rw [Bool.and_false, compareLeftBy_of_eq htie, compareLeftBy_of_eq htie]
          exact .inl ⟨by cases mineClosed <;> decide, rfl⟩
      · have hback : answer b a < 0 := (h.pos_iff hmine htheirs).1 hgt
        rw [laterBy, if_pos hgt]
        refine .inr ⟨?_, horder.self hmine⟩
        rw [compareLeftBy_of_ne (Int.ne_of_lt hback)]
        exact Int.le_of_lt hback

theorem le_laterBy_left {mine theirs : Endpoint α} (hmine : mine.Within values)
    (htheirs : theirs.Within values) :
    compareLeftBy answer mine (laterBy answer mine theirs) ≤ 0 := by
  have horder := signPreorderOn_compareLeftBy h
  have hlater : (laterBy answer mine theirs).Within values := within_laterBy hmine htheirs
  obtain ⟨hle, htie⟩ | ⟨_, htie⟩ := laterBy_cases h hmine htheirs
  · exact horder.trans hmine htheirs hlater hle
      (Int.le_of_eq ((horder.eq_zero_iff hlater htheirs).1 htie))
  · exact Int.le_of_eq ((horder.eq_zero_iff hlater hmine).1 htie)

theorem le_laterBy_right {mine theirs : Endpoint α} (hmine : mine.Within values)
    (htheirs : theirs.Within values) :
    compareLeftBy answer theirs (laterBy answer mine theirs) ≤ 0 := by
  have horder := signPreorderOn_compareLeftBy h
  have hlater : (laterBy answer mine theirs).Within values := within_laterBy hmine htheirs
  obtain ⟨_, htie⟩ | ⟨hle, htie⟩ := laterBy_cases h hmine htheirs
  · exact Int.le_of_eq ((horder.eq_zero_iff hlater htheirs).1 htie)
  · exact horder.trans htheirs hmine hlater hle
      (Int.le_of_eq ((horder.eq_zero_iff hlater hmine).1 htie))

/-- The later of two left endpoints is not after anything that neither of them is after. -/
theorem laterBy_le {mine theirs e : Endpoint α} (hmine : mine.Within values)
    (htheirs : theirs.Within values) (he : e.Within values)
    (hmineLe : compareLeftBy answer mine e ≤ 0) (htheirsLe : compareLeftBy answer theirs e ≤ 0) :
    compareLeftBy answer (laterBy answer mine theirs) e ≤ 0 := by
  have horder := signPreorderOn_compareLeftBy h
  have hlater : (laterBy answer mine theirs).Within values := within_laterBy hmine htheirs
  obtain ⟨_, htie⟩ | ⟨_, htie⟩ := laterBy_cases h hmine htheirs
  · exact horder.trans hlater htheirs he (Int.le_of_eq htie) htheirsLe
  · exact horder.trans hlater hmine he (Int.le_of_eq htie) hmineLe

/-- Which of two left endpoints is looked at first makes no difference but for ties. -/
theorem laterBy_comm {mine theirs : Endpoint α} (hmine : mine.Within values)
    (htheirs : theirs.Within values) :
    compareLeftBy answer (laterBy answer mine theirs) (laterBy answer theirs mine) = 0 := by
  have hforth : (laterBy answer mine theirs).Within values := within_laterBy hmine htheirs
  have hback : (laterBy answer theirs mine).Within values := within_laterBy htheirs hmine
  refine (signPreorderOn_compareLeftBy h).tie_of_le hforth hback ?_ ?_
  · exact laterBy_le h hmine htheirs hback (le_laterBy_right h htheirs hmine)
      (le_laterBy_left h htheirs hmine)
  · exact laterBy_le h htheirs hmine hforth (le_laterBy_right h hmine htheirs)
      (le_laterBy_left h hmine htheirs)

/-- The latest of three left endpoints is the same in either grouping but for ties. -/
theorem laterBy_assoc {a b c : Endpoint α} (ha : a.Within values) (hb : b.Within values)
    (hc : c.Within values) :
    compareLeftBy answer (laterBy answer (laterBy answer a b) c)
      (laterBy answer a (laterBy answer b c)) = 0 := by
  have horder := signPreorderOn_compareLeftBy h
  have hab : (laterBy answer a b).Within values := within_laterBy ha hb
  have hbc : (laterBy answer b c).Within values := within_laterBy hb hc
  have hleft : (laterBy answer (laterBy answer a b) c).Within values := within_laterBy hab hc
  have hright : (laterBy answer a (laterBy answer b c)).Within values := within_laterBy ha hbc
  have habLe := le_laterBy_left h hab hc
  have hbcLe := le_laterBy_right h ha hbc
  -- Each grouping is not before any of the three, so it is not before the other grouping.
  refine horder.tie_of_le hleft hright ?_ ?_
  · refine laterBy_le h hab hc hright (laterBy_le h ha hb hright (le_laterBy_left h ha hbc) ?_) ?_
    · exact horder.trans hb hbc hright (le_laterBy_left h hb hc) hbcLe
    · exact horder.trans hc hbc hright (le_laterBy_right h hb hc) hbcLe
  · refine laterBy_le h ha hbc hleft ?_ (laterBy_le h hb hc hleft ?_ (le_laterBy_right h hab hc))
    · exact horder.trans ha hab hleft (le_laterBy_left h ha hb) habLe
    · exact horder.trans hb hab hleft (le_laterBy_right h ha hb) habLe

theorem laterBy_self {e : Endpoint α} (he : e.Within values) : laterBy answer e e = e := by
  cases e with
  | unbounded => rfl
  | bounded closed a =>
    have htie : answer a a = 0 := h.self he
    rw [laterBy, if_neg (by omega), if_neg (by omega), Bool.and_self]

/-- An endpoint leaves all the room that a later one leaves. -/
theorem hasRoomBy_of_le {mine theirs right : Endpoint α} (hmine : mine.Within values)
    (htheirs : theirs.Within values) (hright : right.Within values)
    (hle : compareLeftBy answer mine theirs ≤ 0) (hroom : hasRoomBy answer theirs right = true) :
    hasRoomBy answer mine right = true := by
  cases mine with
  | unbounded => rfl
  | bounded mineClosed a =>
    cases theirs with
    | unbounded => simp at hle
    | bounded theirsClosed b =>
      cases right with
      | unbounded => rfl
      | bounded rightClosed c =>
        rw [hasRoomBy_bounded] at hroom ⊢
        have hbc : answer b c ≤ 0 := by omega
        by_cases htie : answer a b = 0
        · rw [compareLeftBy_of_eq htie] at hle
          rcases hroom with hlt | ⟨hzero, htheirsClosed, hrightClosed⟩
          · exact .inl (h.neg_of_nonpos_of_neg hmine htheirs hright (Int.le_of_eq htie) hlt)
          · -- A closed endpoint is not before an open one at the same value.
            have hmineClosed : mineClosed = true := by
              revert hle
              rw [htheirsClosed]
              cases mineClosed <;> decide
            exact .inr ⟨h.eq_zero_trans hmine htheirs hright htie hzero, hmineClosed, hrightClosed⟩
        · rw [compareLeftBy_of_ne htie] at hle
          exact .inl (h.neg_of_neg_of_nonpos hmine htheirs hright (by omega) hbc)

/-- The later of two left endpoints leaves the room that both leave. -/
theorem hasRoomBy_laterBy {mine theirs right : Endpoint α} (hmine : mine.Within values)
    (htheirs : theirs.Within values) (hright : right.Within values) :
    hasRoomBy answer (laterBy answer mine theirs) right =
      (hasRoomBy answer mine right && hasRoomBy answer theirs right) := by
  have hlater : (laterBy answer mine theirs).Within values := within_laterBy hmine htheirs
  rw [Bool.eq_iff_iff, Bool.and_eq_true]
  constructor
  · intro hroom
    exact ⟨hasRoomBy_of_le h hmine hlater hright (le_laterBy_left h hmine htheirs) hroom,
      hasRoomBy_of_le h htheirs hlater hright (le_laterBy_right h hmine htheirs) hroom⟩
  · rintro ⟨hmineRoom, htheirsRoom⟩
    obtain ⟨_, htie⟩ | ⟨_, htie⟩ := laterBy_cases h hmine htheirs
    · exact hasRoomBy_of_le h hlater htheirs hright (Int.le_of_eq htie) htheirsRoom
    · exact hasRoomBy_of_le h hlater hmine hright (Int.le_of_eq htie) hmineRoom

/-- Seen from the other end, there is as much room. -/
theorem hasRoomBy_reversed {left right : Endpoint α} (hleft : left.Within values)
    (hright : right.Within values) :
    hasRoomBy (reversed answer) right left = hasRoomBy answer left right := by
  cases left with
  | unbounded => cases right <;> rfl
  | bounded leftClosed a =>
    cases right with
    | unbounded => rfl
    | bounded rightClosed b =>
      have hback := h.pos_iff hright hleft
      have hzero := h.eq_zero_iff hright hleft
      rw [Bool.eq_iff_iff, hasRoomBy_bounded, hasRoomBy_bounded]
      simp only [reversed]
      constructor
      · rintro (hlt | ⟨htie, hrightClosed, hleftClosed⟩)
        · exact .inl (by omega)
        · exact .inr ⟨by omega, hleftClosed, hrightClosed⟩
      · rintro (hlt | ⟨htie, hleftClosed, hrightClosed⟩)
        · exact .inl (by omega)
        · exact .inr ⟨by omega, hrightClosed, hleftClosed⟩

/-- The earlier of two right endpoints leaves the room that both leave. -/
theorem hasRoomBy_earlierBy {left mine theirs : Endpoint α} (hleft : left.Within values)
    (hmine : mine.Within values) (htheirs : theirs.Within values) :
    hasRoomBy answer left (earlierBy answer mine theirs) =
      (hasRoomBy answer left mine && hasRoomBy answer left theirs) := by
  have hearlier : (earlierBy answer mine theirs).Within values := within_laterBy hmine htheirs
  rw [← hasRoomBy_reversed h hleft hearlier, ← hasRoomBy_reversed h hleft hmine,
    ← hasRoomBy_reversed h hleft htheirs]
  exact hasRoomBy_laterBy h.reversed hmine htheirs hleft

end Order

end Interval

end VersionOrder
