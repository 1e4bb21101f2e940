import VersionOrder.Fault

/-!
# Total preorders by sign

A comparison is a total preorder on some values if swapping its sides turns the sign of its result
and "not after" is transitive. Distinct values may tie, and only the sign of a result counts.

## Main definitions

- `SignPreorderOn`: the property of a comparison that always answers
- `TotalPreorderOn`: the property of a comparison that may fail, which includes that it answers
- `LinearOrderOn`: the property that, besides, exactly the equal values tie
- `SignPreorderOn.lex`, `SignPreorderOn.ofHead`: preorders that look at one thing after another
-/

namespace VersionOrder

/-- On the given values, the sign of `compare` is a total preorder. -/
structure SignPreorderOn {α : Type} (compare : α → α → Int) (values : α → Prop) : Prop where
  /-- The two results of a pair have opposite signs. -/
  pos_iff : ∀ {a b}, values a → values b → (0 < compare a b ↔ compare b a < 0)
  /-- What is not after a second value is not after a third that the second is not after. -/
  trans : ∀ {a b c}, values a → values b → values c →
    compare a b ≤ 0 → compare b c ≤ 0 → compare a c ≤ 0

/-- On the given values, `compare` answers, and the sign of its answers is a total preorder. -/
def TotalPreorderOn {α : Type} (compare : α → α → Except Fault Int) (values : α → Prop) : Prop :=
  ∃ result : α → α → Int,
    (∀ a b, values a → values b → compare a b = .ok (result a b)) ∧ SignPreorderOn result values

/-- On the given values, `compare` is a total preorder in which exactly the equal values tie. -/
structure LinearOrderOn {α : Type} (compare : α → α → Except Fault Int) (same : α → α → Bool)
    (values : α → Prop) : Prop where
  /-- The comparison answers, and its answers are a total preorder. -/
  preorder : TotalPreorderOn compare values
  /-- Two values tie exactly if they are equal. -/
  tie_iff : ∀ {a b}, values a → values b → (compare a b = .ok 0 ↔ same a b = true)

/-- The comparison that turns every result of `compare`. -/
def reversed {α : Type} (compare : α → α → Int) (a b : α) : Int :=
  -compare a b

namespace SignPreorderOn

variable {α β : Type} {f g : α → α → Int} {values : α → Prop} {a b c : α}

theorem sign_swap (h : SignPreorderOn f values) (ha : values a) (hb : values b) :
    (f b a).sign = -(f a b).sign := by
  have hab := h.pos_iff ha hb
  have hba := h.pos_iff hb ha
  obtain hlt | heq | hgt := Int.lt_trichotomy (f a b) 0
  · rw [Int.sign_eq_neg_one_of_neg hlt, Int.sign_eq_one_of_pos (hba.2 hlt)]
    rfl
  · rw [heq, show f b a = 0 by omega]
    rfl
  · rw [Int.sign_eq_one_of_pos hgt, Int.sign_eq_neg_one_of_neg (hab.1 hgt)]

theorem eq_zero_iff (h : SignPreorderOn f values) (ha : values a) (hb : values b) :
    f a b = 0 ↔ f b a = 0 := by
  have hab := h.pos_iff ha hb
  have hba := h.pos_iff hb ha
  omega

/-- Values neither of which is after the other tie. -/
theorem tie_of_le (h : SignPreorderOn f values) (ha : values a) (hb : values b) (hab : f a b ≤ 0)
    (hba : f b a ≤ 0) : f a b = 0 := by
  have hback := h.pos_iff hb ha
  omega

/-- Every value ties with itself. -/
theorem self (h : SignPreorderOn f values) (ha : values a) : f a a = 0 := by
  have haa := h.pos_iff ha ha
  omega

theorem neg_of_neg_of_nonpos (h : SignPreorderOn f values) (ha : values a) (hb : values b)
    (hc : values c) (hab : f a b < 0) (hbc : f b c ≤ 0) : f a c < 0 := by
  have hback := h.trans hb hc ha hbc
  have hca := h.pos_iff hc ha
  have hba := h.pos_iff hb ha
  have hac := h.pos_iff ha hc
  omega

theorem neg_of_nonpos_of_neg (h : SignPreorderOn f values) (ha : values a) (hb : values b)
    (hc : values c) (hab : f a b ≤ 0) (hbc : f b c < 0) : f a c < 0 := by
  have hback := h.trans hc ha hb
  have hca := h.pos_iff hc ha
  have hcb := h.pos_iff hc hb
  have hac := h.pos_iff ha hc
  omega

theorem eq_zero_trans (h : SignPreorderOn f values) (ha : values a) (hb : values b)
    (hc : values c) (hab : f a b = 0) (hbc : f b c = 0) : f a c = 0 := by
  have hle := h.trans ha hb hc (Int.le_of_eq hab) (Int.le_of_eq hbc)
  have hge := h.trans hc hb ha (Int.le_of_eq ((h.eq_zero_iff hb hc).1 hbc))
    (Int.le_of_eq ((h.eq_zero_iff ha hb).1 hab))
  have hsign := h.pos_iff hc ha
  omega

/-- Three values in a circle tie. -/
theorem tie_of_circle (h : SignPreorderOn f values) (ha : values a) (hb : values b)
    (hc : values c) (hab : f a b ≤ 0) (hbc : f b c ≤ 0) (hca : f c a ≤ 0) :
    f a b = 0 ∧ f b c = 0 ∧ f c a = 0 := by
  have hac := h.trans ha hb hc hab hbc
  have hba := h.trans hb hc ha hbc hca
  have hcb := h.trans hc ha hb hca hab
  have sab := h.pos_iff hb ha
  have sbc := h.pos_iff hc hb
  have sca := h.pos_iff ha hc
  omega

/-- Only the signs of the results matter. -/
theorem congr (h : SignPreorderOn f values)
    (hsign : ∀ {a b}, values a → values b → (g a b).sign = (f a b).sign) :
    SignPreorderOn g values := by
  have hpos : ∀ {a b}, values a → values b → (0 < g a b ↔ 0 < f a b) := by
    intro a b ha hb
    rw [← Int.sign_eq_one_iff_pos, ← Int.sign_eq_one_iff_pos, hsign ha hb]
  have hneg : ∀ {a b}, values a → values b → (g a b < 0 ↔ f a b < 0) := by
    intro a b ha hb
    rw [← Int.sign_eq_neg_one_iff_neg, ← Int.sign_eq_neg_one_iff_neg, hsign ha hb]
  constructor
  · intro a b ha hb
    rw [hpos ha hb, hneg hb ha, h.pos_iff ha hb]
  · intro a b c ha hb hc hab hbc
    have sab := hpos ha hb
    have sbc := hpos hb hc
    have sac := hpos ha hc
    have hac := h.trans ha hb hc (by omega) (by omega)
    omega

/-- Everything may tie. -/
theorem zero : SignPreorderOn (fun _ _ => 0) values where
  pos_iff _ _ := Iff.rfl
  trans _ _ _ _ _ := Int.le_refl 0

theorem mono (h : SignPreorderOn f values) (fewer : α → Prop)
    (hsub : ∀ a, fewer a → values a) : SignPreorderOn f fewer where
  pos_iff ha hb := h.pos_iff (hsub _ ha) (hsub _ hb)
  trans ha hb hc := h.trans (hsub _ ha) (hsub _ hb) (hsub _ hc)

/-- The reversed order is a preorder. -/
theorem reversed (h : SignPreorderOn f values) : SignPreorderOn (reversed f) values where
  pos_iff ha hb := by
    have hab := h.pos_iff hb ha
    simp only [VersionOrder.reversed]
    omega
  trans {a b c} ha hb hc hab hbc := by
    have sab := h.pos_iff ha hb
    have sba := h.pos_iff hb ha
    have sbc := h.pos_iff hb hc
    have scb := h.pos_iff hc hb
    have sac := h.pos_iff ha hc
    have sca := h.pos_iff hc ha
    have hca := h.trans hc hb ha
    simp only [VersionOrder.reversed] at *
    omega

/-- Values can be compared by a key. -/
theorem comap (h : SignPreorderOn f values) (key : β → α) :
    SignPreorderOn (fun x y => f (key x) (key y)) fun x => values (key x) where
  pos_iff hx hy := h.pos_iff hx hy
  trans hx hy hz := h.trans hx hy hz

/-- A second comparison may decide where the first one ties. -/
theorem lex (hf : SignPreorderOn f values) (hg : SignPreorderOn g values) :
    SignPreorderOn (fun a b => if f a b = 0 then g a b else f a b) values where
  pos_iff {a b} ha hb := by
    have htie := hf.eq_zero_iff ha hb
    by_cases h : f a b = 0
    · simpa [h, htie.1 h] using hg.pos_iff ha hb
    · have h' : f b a ≠ 0 := fun e => h (htie.2 e)
      simpa [h, h'] using hf.pos_iff ha hb
  trans {a b c} ha hb hc hab hbc := by
    -- If one of the two steps is decided by the first comparison, so is the whole.
    split at hab
    next eab =>
      split at hbc
      next ebc =>
        have eac := hf.eq_zero_trans ha hb hc eab ebc
        rw [if_pos eac]
        exact hg.trans ha hb hc hab hbc
      next nbc =>
        have hac := hf.neg_of_nonpos_of_neg ha hb hc (Int.le_of_eq eab) (by omega)
        rw [if_neg (Int.ne_of_lt hac)]
        exact Int.le_of_lt hac
    next nab =>
      have hbc' : f b c ≤ 0 := by split at hbc <;> omega
      have hac := hf.neg_of_neg_of_nonpos ha hb hc (by omega) hbc'
      rw [if_neg (Int.ne_of_lt hac)]
      exact Int.le_of_lt hac

/-- A comparison of lists is a preorder if the first items decide where they differ, by a preorder
of possibly missing items, and the rest decides where they tie. -/
theorem ofHead {compareLists : List α → List α → Int} (head : Option α → Option α → Int)
    (hnil : compareLists [] [] = 0)
    (hhead : ∀ left right, compareLists left right =
      if head left.head? right.head? = 0 then compareLists left.tail right.tail
      else head left.head? right.head?)
    (h : SignPreorderOn head fun item? => ∀ a ∈ item?, values a) :
    SignPreorderOn compareLists fun items => ∀ a ∈ items, values a := by
  -- The induction is on a bound for the lengths, so that all lists lose their first item at once.
  have bounded : ∀ n, SignPreorderOn compareLists
      fun items => items.length ≤ n ∧ ∀ a ∈ items, values a := by
    intro n
    induction n with
    | zero =>
      have hzero : ∀ left right : List α, left.length ≤ 0 → right.length ≤ 0 →
          compareLists left right = 0 := by
        intro left right hl hr
        rw [List.length_eq_zero_iff.1 (Nat.le_zero.1 hl),
          List.length_eq_zero_iff.1 (Nat.le_zero.1 hr), hnil]
      constructor
      · intro a b ha hb
        rw [hzero a b ha.1 hb.1, hzero b a hb.1 ha.1]
      · intro a b c ha _ hc _ _
        exact Int.le_of_eq (hzero a c ha.1 hc.1)
    | succ n ih =>
      have heads := (h.comap List.head?).mono
        (fun items => items.length ≤ n + 1 ∧ ∀ a ∈ items, values a)
        fun items hitems a ha => hitems.2 a (List.mem_of_mem_head? ha)
      have tails := (ih.comap List.tail).mono
        (fun items => items.length ≤ n + 1 ∧ ∀ a ∈ items, values a)
        fun items hitems => ⟨by simpa using Nat.sub_le_of_le_add hitems.1,
          fun a ha => hitems.2 a (List.mem_of_mem_tail ha)⟩
      have both := heads.lex tails
      simpa only [← hhead] using both
  constructor
  · intro left right hl hr
    exact (bounded (max left.length right.length)).pos_iff ⟨Nat.le_max_left .., hl⟩
      ⟨Nat.le_max_right .., hr⟩
  · intro left middle right hl hm hr
    have hbound := bounded (max left.length (max middle.length right.length))
    exact hbound.trans ⟨by omega, hl⟩ ⟨by omega, hm⟩ ⟨by omega, hr⟩

end SignPreorderOn

theorem TotalPreorderOn.mono {α : Type} {compare : α → α → Except Fault Int} {values : α → Prop}
    (h : TotalPreorderOn compare values) (fewer : α → Prop) (hsub : ∀ a, fewer a → values a) :
    TotalPreorderOn compare fewer := by
  obtain ⟨result, hresult, horder⟩ := h
  refine ⟨result, ?_, horder.mono fewer hsub⟩
  intro a b ha hb
  exact hresult a b (hsub a ha) (hsub b hb)

/-- What is compared as its keys are is ordered as they are. -/
theorem TotalPreorderOn.comap {α κ : Type} {compare : α → α → Except Fault Int}
    {compareKeyed : κ → κ → Except Fault Int} {values : α → Prop} {keyed : κ → Prop}
    (h : TotalPreorderOn compare values) (key : κ → α) (hkey : ∀ k, keyed k → values (key k))
    (hcompare : ∀ k l, keyed k → keyed l → compareKeyed k l = compare (key k) (key l)) :
    TotalPreorderOn compareKeyed keyed := by
  obtain ⟨result, hresult, horder⟩ := h
  refine ⟨fun k l => result (key k) (key l), ?_, (horder.comap key).mono keyed hkey⟩
  intro k l hk hl
  exact (hcompare k l hk hl).trans (hresult _ _ (hkey k hk) (hkey l hl))

/-- For a comparison with known answers, the order of the answers is all there is to show. -/
theorem totalPreorderOn_iff {α : Type} {compare : α → α → Except Fault Int}
    {answer : α → α → Int} {values : α → Prop}
    (h : ∀ a b, values a → values b → compare a b = .ok (answer a b)) :
    TotalPreorderOn compare values ↔ SignPreorderOn answer values := by
  constructor
  · rintro ⟨result, hresult, horder⟩
    refine horder.congr ?_
    intro a b ha hb
    rw [Except.ok.inj ((hresult a b ha hb).symm.trans (h a b ha hb))]
  · intro horder
    exact ⟨answer, h, horder⟩

/-- The answers of a linear order are a preorder in which only equal values tie. -/
theorem LinearOrderOn.answers {α : Type} {compare : α → α → Except Fault Int}
    {same : α → α → Bool} {values : α → Prop} (h : LinearOrderOn compare same values) :
    ∃ answer : α → α → Int,
      (∀ a b, values a → values b → compare a b = .ok (answer a b)) ∧
        SignPreorderOn answer values ∧
        ∀ a b, values a → values b → answer a b = 0 → same a b = true := by
  obtain ⟨answer, hanswer, horder⟩ := h.preorder
  refine ⟨answer, hanswer, horder, ?_⟩
  intro a b ha hb hzero
  exact (h.tie_iff ha hb).1 ((hanswer a b ha hb).trans (congrArg Except.ok hzero))

end VersionOrder
