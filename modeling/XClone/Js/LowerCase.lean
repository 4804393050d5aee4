import XClone.Js.Text

/-!
# XClone.Js.LowerCase — `toLowerCase`

Beyond ASCII the lower-casing of a character is Unicode's, and may depend on its
neighbours; `LowerCasing` is that table. All that is used of it is which characters
lower-case into ASCII: no more than the Kelvin sign, which becomes a `k`. So a text
without a `k` is the lower-casing of its own ASCII variants and of nothing else.
-/

namespace XClone.Js

/-- The lower-casing of an ASCII unit. -/
def lowerUnit (u : UInt16) : UInt16 := if 65 ≤ u && u ≤ 90 then u + 32 else u

/-- The lower-casing of a code point beyond ASCII, between those before and after it. -/
abbrev LowerCasing := List ℕ → ℕ → List ℕ → JsString

/-- U+212A KELVIN SIGN. -/
def kelvinSign : ℕ := 0x212A

/-- What Unicode's tables lower-case into ASCII: the Kelvin sign, and no other code point
beyond ASCII. -/
structure LowerCasing.Unicode (table : LowerCasing) : Prop where
  kelvin : ∀ before after, table before kelvinSign after = js "k"
  beyond : ∀ before c after, 0x80 ≤ c → c ≠ kelvinSign → ∃ u ∈ table before c after, 0x80 ≤ u

variable (table : LowerCasing)

/-- The lower-casing of what follows `before`. -/
def lowerFrom (before : List ℕ) : List ℕ → JsString
  | [] => []
  | c :: after =>
    (if c < 0x80 then [lowerUnit c.toUInt16] else table before c after) ++
      lowerFrom (before ++ [c]) after

/-- `s.toLowerCase()`. -/
def toLowerCase (s : JsString) : JsString := lowerFrom table [] (codePoints s)

variable {table}

theorem lowerFrom_ascii {s : JsString} (h : IsAscii s) (before : List ℕ) :
    lowerFrom table before (s.map (·.toNat)) = s.map lowerUnit := by
  induction s generalizing before with
  | nil => rfl
  | cons u s ih =>
    have hu : u.toNat < 0x80 := UInt16.lt_iff_toNat_lt.mp (h u List.mem_cons_self)
    have hs : IsAscii s := fun v hv => h v (List.mem_cons_of_mem _ hv)
    have hunit : u.toNat.toUInt16 = u := UInt16.ofNat_toNat
    rw [List.map_cons, List.map_cons, lowerFrom, if_pos hu, hunit, ih hs]
    rfl

/-- ASCII is lower-cased unit by unit. -/
theorem toLowerCase_ascii {s : JsString} (h : IsAscii s) : toLowerCase table s = s.map lowerUnit := by
  rw [toLowerCase, codePoints_of_ascii h]
  exact lowerFrom_ascii h []

/-- A code point beyond ASCII leaves a trace. -/
theorem lowerFrom_beyond (htable : table.Unicode) {cs : List ℕ} {c : ℕ} (hc : c ∈ cs)
    (hbeyond : 0x80 ≤ c) (before : List ℕ) :
    ∃ u ∈ lowerFrom table before cs, 0x80 ≤ u ∨ u = 107 := by
  induction cs generalizing before with
  | nil => cases hc
  | cons first after ih =>
    rw [lowerFrom]
    rcases List.mem_cons.mp hc with rfl | hc
    · rw [if_neg (Nat.not_lt.mpr hbeyond)]
      by_cases hkelvin : c = kelvinSign
      · refine ⟨107, List.mem_append_left _ ?_, Or.inr rfl⟩
        rw [hkelvin, htable.kelvin]
        exact List.mem_singleton_self _
      · rcases htable.beyond before c after hbeyond hkelvin with ⟨u, hu, hle⟩
        exact ⟨u, List.mem_append_left _ hu, Or.inl hle⟩
    · rcases ih hc (before ++ [first]) with ⟨u, hu, htrace⟩
      exact ⟨u, List.mem_append_right _ hu, htrace⟩

/-- A unit beyond ASCII is part of a code point beyond ASCII. -/
theorem isAscii_of_codePoints {s : JsString} (h : ∀ c ∈ codePoints s, c < 0x80) : IsAscii s := by
  fun_induction codePoints s with
  | case1 =>
    intro u hu
    cases hu
  | case2 u =>
    intro v hv
    obtain rfl := List.mem_singleton.mp hv
    exact UInt16.lt_iff_toNat_lt.mpr (h v.toNat (List.mem_singleton_self _))
  | case3 u v rest hpair ih =>
    rw [Bool.and_eq_true] at hpair
    have hlow := (pairCodePoint_range hpair.1 hpair.2).1
    have hhigh := h (pairCodePoint u v) List.mem_cons_self
    omega
  | case4 u v rest _ ih =>
    intro w hw
    rcases List.mem_cons.mp hw with rfl | hw
    · exact UInt16.lt_iff_toNat_lt.mpr (h w.toNat List.mem_cons_self)
    · exact ih (fun c hc => h c (List.mem_cons_of_mem _ hc)) w hw

/-- What lower-cases into an ASCII text without a `k` is one of its ASCII variants. -/
theorem toLowerCase_eq_iff (htable : table.Unicode) {s word : JsString} (hword : IsAscii word)
    (hk : 107 ∉ word) : toLowerCase table s = word ↔ s.map lowerUnit = word := by
  constructor
  · intro h
    have hascii : IsAscii s := by
      refine isAscii_of_codePoints fun c hc => ?_
      by_contra hbeyond
      rcases lowerFrom_beyond htable hc (Nat.le_of_not_lt hbeyond) [] with ⟨u, hu, hle | rfl⟩
      · have hmem : u ∈ word := by rwa [← h]
        exact absurd (hword u hmem) (UInt16.not_lt.mpr hle)
      · exact hk (by rwa [← h])
    rw [← toLowerCase_ascii hascii]
    exact h
  · intro h
    have hascii : IsAscii s := by
      intro u hu
      have hlower : lowerUnit u < 0x80 := hword _ (by rw [← h]; exact List.mem_map_of_mem hu)
      unfold lowerUnit at hlower
      split at hlower
      · rename_i hrange
        simp only [Bool.and_eq_true, decide_eq_true_eq] at hrange
        exact UInt16.lt_of_le_of_lt hrange.2 (by decide)
      · exact hlower
    rw [toLowerCase_ascii hascii]
    exact h

end XClone.Js
