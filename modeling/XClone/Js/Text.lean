import Mathlib

/-!
# XClone.Js.Text — JavaScript strings and their encodings

A JavaScript string is a sequence of UTF-16 code units; nothing makes surrogates
come in pairs. `Buffer.from(s, 'utf8')` encodes it as UTF-8, a lone surrogate
becoming U+FFFD, so different strings can have the same bytes — but not if one of
them is ASCII (`utf8_ascii_injective`), which is what makes comparing signature
texts through their bytes exact.
-/

namespace XClone.Js

/-- A JavaScript `string`. -/
abbrev JsString := List UInt16

abbrev Bytes := List UInt8

/-- The code units of one Unicode scalar value. -/
def utf16Units (c : Char) : JsString :=
  if c.toNat < 0x10000 then [c.toNat.toUInt16]
  else [(0xD800 + (c.toNat - 0x10000) / 0x400).toUInt16,
    (0xDC00 + (c.toNat - 0x10000) % 0x400).toUInt16]

/-- A string literal. -/
def js (s : String) : JsString := s.toList.flatMap utf16Units

/-- A literal by its characters, for evaluating it. -/
theorem js_ofList (cs : List Char) : js (String.ofList cs) = cs.flatMap utf16Units := by
  rw [js, String.toList_ofList]

/-! ## Code points -/

def isHighSurrogate (u : UInt16) : Bool := 0xD800 ≤ u && u ≤ 0xDBFF

def isLowSurrogate (u : UInt16) : Bool := 0xDC00 ≤ u && u ≤ 0xDFFF

/-- The code point of a surrogate pair. -/
def pairCodePoint (high low : UInt16) : ℕ :=
  0x10000 + (high.toNat - 0xD800) * 0x400 + (low.toNat - 0xDC00)

/-- `[...s]`: the code points of a string, a lone surrogate standing for itself. -/
def codePoints : JsString → List ℕ
  | [] => []
  | [u] => [u.toNat]
  | u :: v :: rest =>
    if isHighSurrogate u && isLowSurrogate v then pairCodePoint u v :: codePoints rest
    else u.toNat :: codePoints (v :: rest)

/-! ## UTF-8 -/

/-- The UTF-8 encoding of one code point; a surrogate is encoded as U+FFFD. -/
def utf8Point (c : ℕ) : Bytes :=
  if c < 0x80 then [c.toUInt8]
  else if c < 0x800 then [(0xC0 + c / 0x40).toUInt8, (0x80 + c % 0x40).toUInt8]
  else if 0xD800 ≤ c ∧ c ≤ 0xDFFF then [0xEF, 0xBF, 0xBD]
  else if c < 0x10000 then
    [(0xE0 + c / 0x1000).toUInt8, (0x80 + c / 0x40 % 0x40).toUInt8, (0x80 + c % 0x40).toUInt8]
  else
    [(0xF0 + c / 0x40000).toUInt8, (0x80 + c / 0x1000 % 0x40).toUInt8,
      (0x80 + c / 0x40 % 0x40).toUInt8, (0x80 + c % 0x40).toUInt8]

/-- `Buffer.from(s, 'utf8')`. -/
def utf8 (s : JsString) : Bytes := (codePoints s).flatMap utf8Point

/-- Every code unit is ASCII. -/
def IsAscii (s : JsString) : Prop := ∀ u ∈ s, u < 0x80

/-- Every code unit is printable ASCII. -/
def IsPrintable (s : JsString) : Prop := ∀ u ∈ s, 0x20 ≤ u ∧ u ≤ 0x7E

/-- A literal of printable characters. -/
theorem js_printable {s : String} (h : s.toList.all fun c => 0x20 ≤ c.toNat && c.toNat ≤ 0x7E) :
    IsPrintable (js s) := by
  intro u hu
  rcases List.mem_flatMap.mp hu with ⟨c, hc, hmem⟩
  have hrange := List.all_eq_true.mp h c hc
  simp only [Bool.and_eq_true, decide_eq_true_eq] at hrange
  have hnat : c.toNat.toUInt16.toNat = c.toNat := Nat.mod_eq_of_lt (by omega)
  unfold utf16Units at hmem
  rw [if_pos (by omega)] at hmem
  obtain rfl := List.mem_singleton.mp hmem
  rw [UInt16.le_iff_toNat_le, UInt16.le_iff_toNat_le, hnat]
  exact hrange

instance (s : JsString) : Decidable (IsPrintable s) :=
  List.decidableBAll (fun u : UInt16 => 0x20 ≤ u ∧ u ≤ 0x7E) s

theorem IsPrintable.isAscii {s : JsString} (h : IsPrintable s) : IsAscii s :=
  fun u hu => UInt16.lt_of_le_of_lt (h u hu).2 (by decide)

theorem isPrintable_append {s t : JsString} (hs : IsPrintable s) (ht : IsPrintable t) :
    IsPrintable (s ++ t) := by
  intro u hu
  rcases List.mem_append.mp hu with hu | hu
  · exact hs u hu
  · exact ht u hu

theorem isPrintable_cons {u : UInt16} {s : JsString} (hu : 0x20 ≤ u ∧ u ≤ 0x7E)
    (hs : IsPrintable s) : IsPrintable (u :: s) := by
  intro w hw
  rcases List.mem_cons.mp hw with rfl | hw
  · exact hu
  · exact hs w hw

/-- A text of units that lie in the printable range. -/
theorem isPrintable_of_range {s : JsString} (h : ∀ u ∈ s, 0x20 ≤ u.toNat ∧ u.toNat ≤ 0x7E) :
    IsPrintable s := by
  intro u hu
  rw [UInt16.le_iff_toNat_le, UInt16.le_iff_toNat_le]
  exact h u hu

theorem not_surrogate {u : UInt16} (hu : u < 0xD800) :
    isHighSurrogate u = false ∧ isLowSurrogate u = false := by
  have hhigh : ¬ (0xD800 : UInt16) ≤ u := UInt16.not_le.mpr hu
  have hlow : ¬ (0xDC00 : UInt16) ≤ u := fun hle =>
    hhigh (UInt16.le_trans (by decide) hle)
  simp [isHighSurrogate, isLowSurrogate, hhigh, hlow]

/-- A unit that is no surrogate is a code point. -/
theorem mem_codePoints {s : JsString} {u : UInt16} (h : u ∈ s) (hu : u < 0xD800) :
    u.toNat ∈ codePoints s := by
  fun_induction codePoints s with
  | case1 => cases h
  | case2 v =>
    obtain rfl := List.mem_singleton.mp h
    exact List.mem_singleton_self _
  | case3 v w rest hpair ih =>
    rw [Bool.and_eq_true] at hpair
    have hv : u ≠ v := by
      rintro rfl
      rw [(not_surrogate hu).1] at hpair
      cases hpair.1
    have hw : u ≠ w := by
      rintro rfl
      rw [(not_surrogate hu).2] at hpair
      cases hpair.2
    rw [List.mem_cons, List.mem_cons] at h
    rcases h with heq | heq | hmem
    · exact absurd heq hv
    · exact absurd heq hw
    · exact List.mem_cons_of_mem _ (ih hmem)
  | case4 v w rest _ ih =>
    rcases List.mem_cons.mp h with rfl | hmem
    · exact List.mem_cons_self
    · exact List.mem_cons_of_mem _ (ih hmem)

/-- A surrogate pair lies beyond the basic plane. -/
theorem basic_le_pairCodePoint (u v : UInt16) : 0x10000 ≤ pairCodePoint u v :=
  Nat.le_trans (Nat.le_add_right _ _) (Nat.le_add_right _ _)

/-- A code point of the basic plane is a unit. -/
theorem unit_of_codePoint {s : JsString} {c : ℕ} (h : c ∈ codePoints s) (hc : c < 0x10000) :
    ∃ u ∈ s, u.toNat = c := by
  fun_induction codePoints s with
  | case1 => cases h
  | case2 u =>
    have heq : c = u.toNat := List.mem_singleton.mp h
    exact ⟨u, List.mem_singleton_self u, heq.symm⟩
  | case3 u v rest hpair ih =>
    rcases List.mem_cons.mp h with heq | hmem
    · rw [heq] at hc
      exact absurd hc (Nat.not_lt.mpr (basic_le_pairCodePoint u v))
    · rcases ih hmem with ⟨w, hw, heq⟩
      exact ⟨w, List.mem_cons_of_mem _ (List.mem_cons_of_mem _ hw), heq⟩
  | case4 u v rest _ ih =>
    rcases List.mem_cons.mp h with rfl | hmem
    · exact ⟨u, List.mem_cons_self, rfl⟩
    · rcases ih hmem with ⟨w, hw, heq⟩
      exact ⟨w, List.mem_cons_of_mem _ hw, heq⟩

theorem length_codePoints_le (s : JsString) : (codePoints s).length ≤ s.length := by
  fun_induction codePoints s with
  | case1 => exact le_rfl
  | case2 u => exact le_rfl
  | case3 u v rest _ ih =>
    simp only [List.length_cons]
    omega
  | case4 u v rest _ ih =>
    simp only [List.length_cons] at ih ⊢
    omega

/-- ASCII has one code point a unit. -/
theorem codePoints_of_ascii {s : JsString} (h : IsAscii s) :
    codePoints s = s.map (·.toNat) := by
  fun_induction codePoints s with
  | case1 => rfl
  | case2 u => rfl
  | case3 u v rest hpair ih =>
    have hu : u < 0xD800 := UInt16.lt_of_lt_of_le (h u List.mem_cons_self) (by decide)
    rw [Bool.and_eq_true, (not_surrogate hu).1] at hpair
    cases hpair.1
  | case4 u v rest _ ih =>
    rw [List.map_cons, ih fun w hw => h w (List.mem_cons_of_mem _ hw)]

theorem utf8Point_ascii {c : ℕ} (h : c < 0x80) : utf8Point c = [c.toUInt8] := if_pos h

/-- A code point outside ASCII starts with a byte outside ASCII. -/
theorem utf8Point_nonascii {c : ℕ} (h : 0x80 ≤ c) (hc : c < 0x110000) :
    ∃ b bs, utf8Point c = b :: bs ∧ 0x80 ≤ b := by
  have key : ∀ n : ℕ, 0x80 ≤ n → n < 0x100 → (0x80 : UInt8) ≤ n.toUInt8 := by
    intro n hn hlt
    rw [UInt8.le_iff_toNat_le]
    have hmod : n.toUInt8.toNat = n % 256 := rfl
    rw [hmod, Nat.mod_eq_of_lt hlt]
    exact hn
  unfold utf8Point
  rw [if_neg (by omega)]
  by_cases h2 : c < 0x800
  · rw [if_pos h2]
    exact ⟨_, _, rfl, key _ (by omega) (by omega)⟩
  rw [if_neg h2]
  by_cases hs : 0xD800 ≤ c ∧ c ≤ 0xDFFF
  · rw [if_pos hs]
    exact ⟨_, _, rfl, by decide⟩
  rw [if_neg hs]
  by_cases h3 : c < 0x10000
  · rw [if_pos h3]
    exact ⟨_, _, rfl, key _ (by omega) (by omega)⟩
  · rw [if_neg h3]
    exact ⟨_, _, rfl, key _ (by omega) (by omega)⟩

theorem pairCodePoint_range {u v : UInt16} (hu : isHighSurrogate u) (hv : isLowSurrogate v) :
    0x80 ≤ pairCodePoint u v ∧ pairCodePoint u v < 0x110000 := by
  simp only [isHighSurrogate, isLowSurrogate, Bool.and_eq_true, decide_eq_true_eq,
    UInt16.le_iff_toNat_le] at hu hv
  have h1 : (0xDBFF : UInt16).toNat = 0xDBFF := rfl
  have h2 : (0xDFFF : UInt16).toNat = 0xDFFF := rfl
  have h3 : (0xD800 : UInt16).toNat = 0xD800 := rfl
  have h4 : (0xDC00 : UInt16).toNat = 0xDC00 := rfl
  unfold pairCodePoint
  omega

/-- ASCII is encoded one byte a unit. -/
theorem utf8_of_ascii {s : JsString} (h : IsAscii s) : utf8 s = s.map (·.toNat.toUInt8) := by
  have unit {u : UInt16} (hu : u < 0x80) : utf8Point u.toNat = [u.toNat.toUInt8] :=
    utf8Point_ascii (UInt16.lt_iff_toNat_lt.mp hu)
  fun_induction codePoints s with
  | case1 => rfl
  | case2 u =>
    have hu : u < 0x80 := h u (by simp)
    simp [utf8, codePoints, unit hu]
  | case3 u v rest hpair ih =>
    -- no surrogate is ASCII
    have hu : u < 0x80 := h u (by simp)
    simp only [isHighSurrogate, Bool.and_eq_true, decide_eq_true_eq] at hpair
    exact absurd (UInt16.lt_of_le_of_lt hpair.1.1 hu) (by decide)
  | case4 u v rest hpair ih =>
    have hu : u < 0x80 := h u (by simp)
    have hrest := ih fun w hw => h w (List.mem_cons_of_mem u hw)
    simp only [utf8] at hrest
    simp only [utf8, codePoints, hpair, Bool.false_eq_true, if_false, List.flatMap_cons, unit hu,
      hrest, List.map_cons, List.cons_append, List.nil_append]

/-- Only ASCII is encoded in bytes below `0x80`. -/
theorem isAscii_of_utf8 {s : JsString} (h : ∀ b ∈ utf8 s, b < 0x80) : IsAscii s := by
  have point {c : ℕ} (hc : c < 0x110000) (hb : ∀ b ∈ utf8Point c, b < 0x80) : c < 0x80 := by
    by_contra hge
    rcases utf8Point_nonascii (Nat.le_of_not_lt hge) hc with ⟨b, bs, hpoint, hle⟩
    exact absurd (hb b (by simp [hpoint])) (UInt8.not_lt.mpr hle)
  have unit {u : UInt16} (hb : ∀ b ∈ utf8Point u.toNat, b < 0x80) : u < 0x80 :=
    UInt16.lt_iff_toNat_lt.mpr (point (Nat.lt_trans u.toNat_lt (by decide)) hb)
  unfold utf8 at h
  fun_induction codePoints s with
  | case1 =>
    intro u hu
    cases hu
  | case2 u =>
    intro w hw
    obtain rfl := List.mem_singleton.mp hw
    exact unit (by simpa using h)
  | case3 u v rest hpair ih =>
    rw [Bool.and_eq_true] at hpair
    have hrange := pairCodePoint_range hpair.1 hpair.2
    have hlt := point hrange.2 fun b hb => h b (List.mem_append_left _ hb)
    omega
  | case4 u v rest hpair ih =>
    intro w hw
    rcases List.mem_cons.mp hw with rfl | hw
    · exact unit fun b hb => h b (List.mem_append_left _ hb)
    · exact ih (fun b hb => h b (List.mem_append_right _ hb)) w hw

/-- An ASCII unit is its byte. -/
theorem ascii_byte {u : UInt16} (hu : u < 0x80) : u.toNat.toUInt8.toNat = u.toNat := by
  have hlt : u.toNat < 0x80 := UInt16.lt_iff_toNat_lt.mp hu
  have hmod : u.toNat.toUInt8.toNat = u.toNat % 256 := rfl
  rw [hmod, Nat.mod_eq_of_lt (by omega)]

/-- ASCII comes back from its bytes. -/
theorem ascii_decode {s : JsString} (h : IsAscii s) :
    (s.map (·.toNat.toUInt8)).map (·.toNat.toUInt16) = s := by
  calc (s.map (·.toNat.toUInt8)).map (·.toNat.toUInt16)
      = s.map id := by
        rw [List.map_map]
        refine List.map_congr_left fun u hu => ?_
        simp only [Function.comp_apply, ascii_byte (h u hu), id]
        exact UInt16.ofNat_toNat
    _ = s := List.map_id s

/-- Two texts with the same UTF-8 bytes are equal when one of them is ASCII. -/
theorem utf8_ascii_injective {s t : JsString} (ht : IsAscii t) (h : utf8 s = utf8 t) : s = t := by
  have hs : IsAscii s := by
    refine isAscii_of_utf8 fun b hb => ?_
    rw [h, utf8_of_ascii ht] at hb
    rcases List.mem_map.mp hb with ⟨u, hu, rfl⟩
    rw [UInt8.lt_iff_toNat_lt, ascii_byte (ht u hu)]
    exact UInt16.lt_iff_toNat_lt.mp (ht u hu)
  rw [utf8_of_ascii hs, utf8_of_ascii ht] at h
  rw [← ascii_decode hs, h, ascii_decode ht]

/-! ## Literals that differ -/

theorem toUInt16_inj {m n : ℕ} (hm : m < 2 ^ 16) (hn : n < 2 ^ 16) (h : m.toUInt16 = n.toUInt16) :
    m = n := by
  have hnat := congrArg UInt16.toNat h
  rwa [UInt16.toNat_ofNat_of_lt' hm, UInt16.toNat_ofNat_of_lt' hn] at hnat

/-- UTF-16 is a prefix code. -/
theorem utf16Units_append_inj {c c' : Char} {rest rest' : JsString}
    (h : utf16Units c ++ rest = utf16Units c' ++ rest') : c = c' ∧ rest = rest' := by
  have hc : c.toNat < 0xD800 ∨ (0xDFFF < c.toNat ∧ c.toNat < 0x110000) := c.valid
  have hc' : c'.toNat < 0xD800 ∨ (0xDFFF < c'.toNat ∧ c'.toNat < 0x110000) := c'.valid
  suffices hkey : c.toNat = c'.toNat ∧ rest = rest' from
    ⟨Char.ext (UInt32.toNat_inj.mp hkey.1), hkey.2⟩
  unfold utf16Units at h
  split at h <;> split at h <;> simp only [List.cons_append, List.nil_append, List.cons.injEq] at h
  · exact ⟨toUInt16_inj (by omega) (by omega) h.1, h.2⟩
  · -- no scalar value is a high surrogate
    have hhead := toUInt16_inj (by omega) (by omega) h.1
    omega
  · have hhead := toUInt16_inj (by omega) (by omega) h.1
    omega
  · have hhigh := toUInt16_inj (by omega) (by omega) h.1
    have hlow := toUInt16_inj (by omega) (by omega) h.2.1
    exact ⟨by omega, h.2.2⟩

theorem utf16Units_ne_nil (c : Char) : utf16Units c ≠ [] := by
  unfold utf16Units
  split <;> apply List.cons_ne_nil

theorem flatMap_utf16Units_inj {cs cs' : List Char}
    (h : cs.flatMap utf16Units = cs'.flatMap utf16Units) : cs = cs' := by
  induction cs generalizing cs' with
  | nil =>
    cases cs' with
    | nil => rfl
    | cons c' rest' =>
      rw [List.flatMap_nil, List.flatMap_cons] at h
      exact absurd (List.append_eq_nil_iff.mp h.symm).1 (utf16Units_ne_nil c')
  | cons c rest ih =>
    cases cs' with
    | nil =>
      rw [List.flatMap_nil, List.flatMap_cons] at h
      exact absurd (List.append_eq_nil_iff.mp h).1 (utf16Units_ne_nil c)
    | cons c' rest' =>
      rw [List.flatMap_cons, List.flatMap_cons] at h
      rcases utf16Units_append_inj h with ⟨rfl, hrest⟩
      rw [ih hrest]

/-- Literals that differ are strings that differ. -/
theorem js_injective : Function.Injective js := by
  intro s t h
  apply String.toList_inj.mp
  exact flatMap_utf16Units_inj h

/-! ## base64url -/

/-- The base64url digit of a six-bit value. -/
def base64urlDigit (n : ℕ) : UInt16 :=
  if n < 26 then (65 + n).toUInt16
  else if n < 52 then (71 + n).toUInt16
  else if n < 62 then (n - 4).toUInt16
  else if n = 62 then 45
  else 95

/-- `buffer.toString('base64url')`: no padding. -/
def base64url : Bytes → JsString
  | [] => []
  | [a] => [base64urlDigit (a.toNat / 4), base64urlDigit (a.toNat % 4 * 16)]
  | [a, b] =>
    [base64urlDigit (a.toNat / 4), base64urlDigit (a.toNat % 4 * 16 + b.toNat / 16),
      base64urlDigit (b.toNat % 16 * 4)]
  | a :: b :: c :: rest =>
    base64urlDigit (a.toNat / 4) :: base64urlDigit (a.toNat % 4 * 16 + b.toNat / 16) ::
      base64urlDigit (b.toNat % 16 * 4 + c.toNat / 64) :: base64urlDigit (c.toNat % 64) ::
      base64url rest

/-- The character between the segments of a token. -/
def dot : UInt16 := 46

theorem base64urlDigit_ascii (n : ℕ) : base64urlDigit n < 0x80 ∧ base64urlDigit n ≠ dot := by
  have key : ∀ m : ℕ, m < 0x80 → m ≠ 46 → m.toUInt16 < 0x80 ∧ m.toUInt16 ≠ dot := by
    intro m hm hdot
    have hmod : m.toUInt16.toNat = m := Nat.mod_eq_of_lt (by omega)
    constructor
    · rw [UInt16.lt_iff_toNat_lt, hmod]
      exact hm
    · intro heq
      apply hdot
      rw [← hmod, heq]
      rfl
  unfold base64urlDigit
  split
  · exact key _ (by omega) (by omega)
  split
  · exact key _ (by omega) (by omega)
  split
  · exact key _ (by omega) (by omega)
  split
  · exact ⟨by decide, by decide⟩
  · exact ⟨by decide, by decide⟩

/-- base64url is ASCII and has no dot. -/
theorem base64url_units (bytes : Bytes) : ∀ u ∈ base64url bytes, u < 0x80 ∧ u ≠ dot := by
  fun_induction base64url bytes with
  | case1 => simp
  | case2 a => simp [base64urlDigit_ascii]
  | case3 a b => simp [base64urlDigit_ascii]
  | case4 a b c rest ih =>
    simp only [List.forall_mem_cons, base64urlDigit_ascii, ne_eq, not_false_eq_true, and_self,
      true_and]
    exact ih

theorem base64url_ascii (bytes : Bytes) : IsAscii (base64url bytes) :=
  fun u hu => (base64url_units bytes u hu).1

theorem dot_notMem_base64url (bytes : Bytes) : dot ∉ base64url bytes :=
  fun hdot => (base64url_units bytes dot hdot).2 rfl

/-! ## `split` -/

/-- `` `${a}.${b}` `` -/
def dotted (a b : JsString) : JsString := a ++ dot :: b

/-- A text without dots is the last segment of a dotted one. -/
theorem dotted_inj {a b m m' : JsString} (hm : dot ∉ m) (hm' : dot ∉ m')
    (h : dotted a m = dotted b m') : a = b ∧ m = m' := by
  rcases List.append_eq_append_iff.mp h with ⟨t, hb, ht⟩ | ⟨t, ha, ht⟩
  · cases t with
    | nil =>
      rw [List.append_nil] at hb
      exact ⟨hb.symm, (List.cons.inj ht).2⟩
    | cons u t =>
      -- a second dot would lie in `m`
      rw [(List.cons.inj ht).2] at hm
      exact absurd (List.mem_append_right _ List.mem_cons_self) hm
  · cases t with
    | nil =>
      rw [List.append_nil] at ha
      exact ⟨ha, (List.cons.inj ht).2.symm⟩
    | cons u t =>
      rw [(List.cons.inj ht).2] at hm'
      exact absurd (List.mem_append_right _ List.mem_cons_self) hm'

theorem splitOn_dotted {h p s : JsString} (hh : dot ∉ h) (hp : dot ∉ p) (hs : dot ∉ s) :
    (dotted (dotted h p) s).splitOn dot = [h, p, s] := by
  have hjoin : dotted (dotted h p) s = [dot].intercalate [h, p, s] := by
    simp [dotted, List.intercalate, List.intersperse]
  rw [hjoin]
  refine List.splitOn_intercalate dot ?_ (by simp)
  intro l hl
  rcases List.mem_cons.mp hl with rfl | hl
  · exact hh
  rcases List.mem_cons.mp hl with rfl | hl
  · exact hp
  · rw [List.mem_singleton.mp hl]
    exact hs

theorem dotted_of_splitOn {t h p s : JsString} (ht : t.splitOn dot = [h, p, s]) :
    t = dotted (dotted h p) s := by
  have hjoin : [dot].intercalate (t.splitOn dot) = t := List.intercalate_splitOn dot
  rw [ht] at hjoin
  rw [← hjoin]
  simp [dotted, List.intercalate, List.intersperse]

/-- A text with a separator in it splits into at least two pieces. -/
theorem two_le_length_splitOn {c : UInt16} {t : JsString} (h : c ∈ t) :
    2 ≤ (t.splitOn c).length := by
  rcases List.append_of_mem h with ⟨before, after, rfl⟩
  have hbefore := List.length_pos_iff.mpr (List.splitOn_ne_nil c before)
  have hafter := List.length_pos_iff.mpr (List.splitOn_ne_nil c after)
  rw [List.splitOn_append_cons_self, List.length_append]
  omega

/-- The pieces of a split have no separator. -/
theorem dot_notMem_of_splitOn {t h p s : JsString} (ht : t.splitOn dot = [h, p, s]) :
    dot ∉ h ∧ dot ∉ p ∧ dot ∉ s := by
  have hpieces : (h.splitOn dot).length + (p.splitOn dot).length + (s.splitOn dot).length = 3 := by
    have hlength := congrArg List.length ht
    rw [dotted_of_splitOn ht] at hlength
    simp only [dotted, List.append_assoc, List.cons_append, List.splitOn_append_cons_self,
      List.length_append] at hlength
    simp only [List.length_cons, List.length_nil] at hlength
    omega
  have hh := List.length_pos_iff.mpr (List.splitOn_ne_nil dot h)
  have hp := List.length_pos_iff.mpr (List.splitOn_ne_nil dot p)
  have hs := List.length_pos_iff.mpr (List.splitOn_ne_nil dot s)
  refine ⟨?_, ?_, ?_⟩
  · intro hmem
    have htwo := two_le_length_splitOn hmem
    omega
  · intro hmem
    have htwo := two_le_length_splitOn hmem
    omega
  · intro hmem
    have htwo := two_le_length_splitOn hmem
    omega

/-- Two pieces around the one separator of a text. -/
theorem splitOn_eq_pair {c : UInt16} {t a b : JsString} :
    t.splitOn c = [a, b] ↔ t = a ++ c :: b ∧ c ∉ a ∧ c ∉ b := by
  have hjoin : [c].intercalate [a, b] = a ++ c :: b := by
    simp [List.intercalate, List.intersperse]
  constructor
  · intro h
    have ht : t = a ++ c :: b := by
      rw [← hjoin, ← h]
      exact (List.intercalate_splitOn c).symm
    have hlength : (a.splitOn c).length + (b.splitOn c).length = 2 := by
      have hpieces := congrArg List.length h
      rw [ht, List.splitOn_append_cons_self, List.length_append] at hpieces
      exact hpieces
    have ha := List.length_pos_iff.mpr (List.splitOn_ne_nil c a)
    have hb := List.length_pos_iff.mpr (List.splitOn_ne_nil c b)
    refine ⟨ht, ?_, ?_⟩
    · intro hmem
      have htwo := two_le_length_splitOn hmem
      omega
    · intro hmem
      have htwo := two_le_length_splitOn hmem
      omega
  · rintro ⟨rfl, ha, hb⟩
    rw [← hjoin]
    refine List.splitOn_intercalate c ?_ (by simp)
    intro l hl
    rcases List.mem_cons.mp hl with rfl | hl
    · exact ha
    · rw [List.mem_singleton.mp hl]
      exact hb

/-! ## Trimming and line ends -/

/-- The white space and line terminators `trim` removes. -/
def isWhiteSpace (u : UInt16) : Bool :=
  (0x09 ≤ u && u ≤ 0x0D) || u == 0x20 || u == 0xA0 || u == 0x1680 ||
    (0x2000 ≤ u && u ≤ 0x200A) || u == 0x2028 || u == 0x2029 || u == 0x202F || u == 0x205F ||
    u == 0x3000 || u == 0xFEFF

/-- `s.trim()`. -/
def trim (s : JsString) : JsString :=
  ((s.dropWhile isWhiteSpace).reverse.dropWhile isWhiteSpace).reverse

/-- `s.replace(/\r\n/g, '\n')`. -/
def foldCrLf : JsString → JsString
  | [] => []
  | [u] => [u]
  | u :: v :: rest => if u = 13 ∧ v = 10 then 10 :: foldCrLf rest else u :: foldCrLf (v :: rest)

/-- The pieces of a text, `skip` units of a separator still to pass over and `piece` begun. -/
def splitFrom (separator : JsString) : ℕ → JsString → JsString → List JsString
  | _, piece, [] => [piece]
  | skip + 1, piece, _ :: rest => splitFrom separator skip piece rest
  | 0, piece, u :: rest =>
    if separator.isPrefixOf (u :: rest) then
      piece :: splitFrom separator (separator.length - 1) [] rest
    else splitFrom separator 0 (piece ++ [u]) rest

/-- `s.split(separator)`, for a separator that is not empty. -/
def splitText (separator s : JsString) : List JsString := splitFrom separator 0 [] s

/-- Units of a separator are passed over. -/
theorem splitFrom_skip (separator : JsString) (skip : ℕ) (piece s : JsString) :
    splitFrom separator skip piece s = splitFrom separator 0 piece (s.drop skip) := by
  induction skip generalizing s with
  | zero => rfl
  | succ skip ih =>
    cases s with
    | nil => rfl
    | cons u rest => exact ih rest

/-- A text in which no separator begins goes into the piece. -/
theorem splitFrom_append {separator text rest : JsString}
    (h : ∀ tail ∈ text.tails, tail ≠ [] → ¬ separator <+: tail ++ rest) (piece : JsString) :
    splitFrom separator 0 piece (text ++ rest) = splitFrom separator 0 (piece ++ text) rest := by
  induction text generalizing piece with
  | nil => rw [List.nil_append, List.append_nil]
  | cons u text ih =>
    have hnot : ¬ separator <+: u :: (text ++ rest) :=
      h (u :: text) List.mem_cons_self (List.cons_ne_nil u text)
    rw [List.cons_append, splitFrom, if_neg (by rwa [List.isPrefixOf_iff_prefix]),
      ih fun tail hmem => h tail (List.mem_cons_of_mem _ hmem), List.append_assoc]
    rfl

section Pieces

variable {separator text : JsString}

/-- A text in which no separator begins is one piece. -/
theorem splitText_eq_self
    (h : ∀ tail ∈ text.tails, tail ≠ [] → ¬ separator <+: tail ++ separator) :
    splitText separator text = [text] := by
  have hnone : ∀ tail ∈ text.tails, tail ≠ [] → ¬ separator <+: tail ++ [] := by
    intro tail hmem hne hbegins
    rw [List.append_nil] at hbegins
    exact h tail hmem hne (hbegins.trans (List.prefix_append tail separator))
  have hwhole := splitFrom_append hnone []
  rw [List.append_nil, List.nil_append] at hwhole
  exact hwhole

/-- Before a separator it is the first. -/
theorem splitText_append (hseparator : separator ≠ [])
    (h : ∀ tail ∈ text.tails, tail ≠ [] → ¬ separator <+: tail ++ separator) (rest : JsString) :
    splitText separator (text ++ (separator ++ rest)) = text :: splitText separator rest := by
  have hnone : ∀ tail ∈ text.tails, tail ≠ [] → ¬ separator <+: tail ++ (separator ++ rest) := by
    intro tail hmem hne hbegins
    -- of what follows only as much as the separator is long counts
    rw [← List.append_assoc] at hbegins
    exact h tail hmem hne
      (List.prefix_of_prefix_length_le hbegins (List.prefix_append _ _) (by simp))
  rw [splitText, splitFrom_append hnone, List.nil_append]
  rcases List.exists_cons_of_ne_nil hseparator with ⟨u, others, rfl⟩
  rw [List.cons_append, splitFrom, if_pos (by simp), splitFrom_skip]
  simp [splitText]

end Pieces

/-- A text without white space at its ends is trimmed. -/
theorem trim_eq_self {s : JsString} (hhead : ∀ u ∈ s.head?, isWhiteSpace u = false)
    (hlast : ∀ u ∈ s.getLast?, isWhiteSpace u = false) : trim s = s := by
  have hdrop : s.dropWhile isWhiteSpace = s := by
    rw [List.dropWhile_eq_self_iff]
    intro hl
    have hfirst := hhead s[0] (by rw [List.head?_eq_getElem?]; simp [hl])
    simp [hfirst]
  unfold trim
  rw [hdrop]
  change s.rdropWhile isWhiteSpace = s
  rw [List.rdropWhile_eq_self_iff]
  intro hne
  have hend := hlast (s.getLast hne) (by simp [List.getLast?_eq_some_getLast hne])
  simp [hend]

/-- There is no white space at either end of a trimmed text. -/
theorem trim_ends (s : JsString) : (∀ u ∈ (trim s).head?, isWhiteSpace u = false) ∧
    ∀ u ∈ (trim s).getLast?, isWhiteSpace u = false := by
  have hdef : trim s = (s.dropWhile isWhiteSpace).rdropWhile isWhiteSpace := rfl
  constructor
  · -- the first unit was the first after the leading white space
    intro u hu
    rw [hdef] at hu
    rcases List.rdropWhile_prefix isWhiteSpace (s.dropWhile isWhiteSpace) with ⟨rest, hrest⟩
    have hmem : (s.dropWhile isWhiteSpace).head? = some u := by
      rw [← hrest, List.head?_append, Option.mem_def.mp hu]
      rfl
    have hnot := List.head?_dropWhile_not isWhiteSpace s
    rw [hmem] at hnot
    simpa using hnot
  · intro u hu
    rw [hdef] at hu
    have hne : (s.dropWhile isWhiteSpace).rdropWhile isWhiteSpace ≠ [] := by
      intro hnil
      rw [hnil] at hu
      cases hu
    have hend := List.rdropWhile_last_not isWhiteSpace _ hne
    rw [List.getLast?_eq_some_getLast hne] at hu
    obtain rfl := Option.some.inj hu
    simpa using hend

theorem trim_trim (s : JsString) : trim (trim s) = trim s :=
  trim_eq_self (trim_ends s).1 (trim_ends s).2

/-- Without carriage returns there is nothing to fold. -/
theorem foldCrLf_eq_self {s : JsString} (h : 13 ∉ s) : foldCrLf s = s := by
  fun_induction foldCrLf s with
  | case1 => rfl
  | case2 u => rfl
  | case3 u v rest hcrlf _ =>
    exact absurd (hcrlf.1 ▸ List.mem_cons_self) h
  | case4 u v rest _ ih =>
    rw [ih fun hmem => h (List.mem_cons_of_mem _ hmem)]

end XClone.Js
