import XClone.Js.Json

/-!
# XClone.Js.ReferenceNode — a `Node` that keeps its laws

An executable `Node` for plain records: JSON text as `JSON.stringify` writes it
for printable ASCII (every other character is escaped as `\uXXXX`), the parser of
that text, and base64url decoding. It shows that `Node.Lawful` can be met, and
runs the witnesses. The MAC is a parameter.
-/

namespace XClone.Js.Reference

/-! ## base64url decoding -/

/-- The value of a base64url digit. -/
def digitValue (u : UInt16) : ℕ :=
  if 97 ≤ u then u.toNat - 71
  else if u = 95 then 63
  else if 65 ≤ u then u.toNat - 65
  else if u = 45 then 62
  else u.toNat + 4

def decodeBase64url : JsString → Bytes
  | a :: b :: c :: d :: rest =>
    (digitValue a * 4 + digitValue b / 16).toUInt8 ::
      (digitValue b % 16 * 16 + digitValue c / 4).toUInt8 ::
      (digitValue c % 4 * 64 + digitValue d).toUInt8 :: decodeBase64url rest
  | [a, b, c] =>
    [(digitValue a * 4 + digitValue b / 16).toUInt8,
      (digitValue b % 16 * 16 + digitValue c / 4).toUInt8]
  | [a, b] => [(digitValue a * 4 + digitValue b / 16).toUInt8]
  | _ => []

theorem digitValue_base64urlDigit {n : ℕ} (h : n < 64) : digitValue (base64urlDigit n) = n := by
  have key : ∀ m < 64, digitValue (base64urlDigit m) = m := by decide
  exact key n h

theorem toUInt8_eq {n : ℕ} {a : UInt8} (h : n = a.toNat) : n.toUInt8 = a := by
  rw [h]
  exact UInt8.ofNat_toNat

theorem decodeBase64url_base64url (bytes : Bytes) : decodeBase64url (base64url bytes) = bytes := by
  fun_induction base64url bytes with
  | case1 => rfl
  | case2 a =>
    have ha := a.toNat_lt
    simp only [decodeBase64url]
    rw [digitValue_base64urlDigit (by omega), digitValue_base64urlDigit (by omega),
      toUInt8_eq (show _ = a.toNat by omega)]
  | case3 a b =>
    have ha := a.toNat_lt
    have hb := b.toNat_lt
    simp only [decodeBase64url]
    rw [digitValue_base64urlDigit (by omega), digitValue_base64urlDigit (by omega),
      digitValue_base64urlDigit (by omega), toUInt8_eq (show _ = a.toNat by omega),
      toUInt8_eq (show _ = b.toNat by omega)]
  | case4 a b c rest ih =>
    have ha := a.toNat_lt
    have hb := b.toNat_lt
    have hc := c.toNat_lt
    simp only [decodeBase64url, ih]
    rw [digitValue_base64urlDigit (by omega), digitValue_base64urlDigit (by omega),
      digitValue_base64urlDigit (by omega), digitValue_base64urlDigit (by omega),
      toUInt8_eq (show _ = a.toNat by omega), toUInt8_eq (show _ = b.toNat by omega),
      toUInt8_eq (show _ = c.toNat by omega)]

/-- Decoding the text of ASCII bytes. -/
def decodeText (text : JsString) : JsString := (decodeBase64url text).map (·.toNat.toUInt16)

theorem decodeText_ascii {s : JsString} (h : IsAscii s) : decodeText (base64url (utf8 s)) = s := by
  rw [decodeText, decodeBase64url_base64url, utf8_of_ascii h]
  exact ascii_decode h

/-! ## Strings -/

def hexDigit (n : ℕ) : UInt16 := if n < 10 then (48 + n).toUInt16 else (87 + n).toUInt16

def hexValue (u : UInt16) : ℕ := if u < 58 then u.toNat - 48 else u.toNat - 87

theorem hexValue_hexDigit {n : ℕ} (h : n < 16) : hexValue (hexDigit n) = n := by
  have key : ∀ m < 16, hexValue (hexDigit m) = m := by decide
  exact key n h

/-- One code unit inside a JSON string. -/
def escape (u : UInt16) : JsString :=
  if u = 34 ∨ u = 92 then [92, u]
  else if 32 ≤ u ∧ u < 127 then [u]
  else [92, 117, hexDigit (u.toNat / 4096), hexDigit (u.toNat / 256 % 16),
    hexDigit (u.toNat / 16 % 16), hexDigit (u.toNat % 16)]

/-- What follows a backslash. -/
def parseEscape : JsString → Option (UInt16 × JsString)
  | [] => none
  | e :: a :: b :: c :: d :: rest =>
    if e = 117 then
      some ((hexValue a * 4096 + hexValue b * 256 + hexValue c * 16 + hexValue d).toUInt16, rest)
    else some (e, a :: b :: c :: d :: rest)
  | e :: rest => some (e, rest)

/-- The next code unit of a string literal, and what follows it. -/
def parseUnit : JsString → Option (UInt16 × JsString)
  | [] => none
  | u :: rest => if u = 92 then parseEscape rest else some (u, rest)

/-- The rest of a string literal after its opening quote, and what follows it. -/
def parseString : ℕ → JsString → Option (JsString × JsString)
  | 0, _ => none
  | fuel + 1, text =>
    if text.head? = some 34 then some ([], text.tail)
    else (parseUnit text).bind fun unit =>
      (parseString fuel unit.2).map fun parsed => (unit.1 :: parsed.1, parsed.2)

theorem parseUnit_escape (u : UInt16) (rest : JsString) :
    parseUnit (escape u ++ rest) = some (u, rest) := by
  have hu := u.toNat_lt
  unfold escape
  split
  · rename_i hquote
    rcases hquote with rfl | rfl
    · match rest with
      | [] => rfl
      | [_] => rfl
      | [_, _] => rfl
      | [_, _, _] => rfl
      | _ :: _ :: _ :: _ :: _ => rfl
    · match rest with
      | [] => rfl
      | [_] => rfl
      | [_, _] => rfl
      | [_, _, _] => rfl
      | _ :: _ :: _ :: _ :: _ => rfl
  split
  · rename_i hquote _
    exact if_neg fun h => hquote (Or.inr h)
  · have hunit : (hexValue (hexDigit (u.toNat / 4096)) * 4096 +
        hexValue (hexDigit (u.toNat / 256 % 16)) * 256 +
        hexValue (hexDigit (u.toNat / 16 % 16)) * 16 +
        hexValue (hexDigit (u.toNat % 16))).toUInt16 = u := by
      rw [hexValue_hexDigit (by omega), hexValue_hexDigit (by omega),
        hexValue_hexDigit (by omega), hexValue_hexDigit (by omega),
        show u.toNat / 4096 * 4096 + u.toNat / 256 % 16 * 256 + u.toNat / 16 % 16 * 16 +
          u.toNat % 16 = u.toNat by omega]
      exact UInt16.ofNat_toNat
    simp [parseUnit, parseEscape, hunit]

/-- An escaped unit does not end the literal. -/
theorem head_escape (u : UInt16) (rest : JsString) : (escape u ++ rest).head? ≠ some 34 := by
  unfold escape
  split
  · simp
  split
  · rename_i hquote _
    simpa using fun h => hquote (Or.inl h)
  · simp

theorem parseString_literal (s rest : JsString) {fuel : ℕ} (hfuel : s.length < fuel) :
    parseString fuel (s.flatMap escape ++ 34 :: rest) = some (s, rest) := by
  induction s generalizing fuel with
  | nil =>
    rcases Nat.exists_eq_add_of_lt hfuel with ⟨fuel, rfl⟩
    simp [parseString]
  | cons u s ih =>
    obtain ⟨fuel, rfl⟩ : ∃ n, fuel = n + 1 := ⟨fuel - 1, by omega⟩
    rw [List.flatMap_cons, List.append_assoc, parseString, if_neg (head_escape u _),
      parseUnit_escape]
    simp only [List.length_cons] at hfuel
    simp only [Option.bind_some, ih (show s.length < fuel by omega), Option.map_some]

/-! ## Numbers -/

def renderNat (n : ℕ) : JsString :=
  if n = 0 then [48] else (Nat.digits 10 n).reverse.map fun d => (48 + d).toUInt16

def renderInt (n : ℤ) : JsString := if n < 0 then 45 :: renderNat n.natAbs else renderNat n.natAbs

def isDigit (u : UInt16) : Bool := 48 ≤ u && u ≤ 57

def parseNat (digits : JsString) : ℕ := Nat.ofDigits 10 (digits.reverse.map (·.toNat - 48))

/-- An integer literal and what follows it. -/
def parseInt : JsString → ℤ × JsString
  | [] => (0, [])
  | u :: rest =>
    if u = 45 then (-(parseNat (rest.takeWhile isDigit) : ℤ), rest.dropWhile isDigit)
    else (parseNat ((u :: rest).takeWhile isDigit), (u :: rest).dropWhile isDigit)

theorem digit_unit {d : ℕ} (h : d < 10) :
    isDigit (48 + d).toUInt16 = true ∧ (48 + d).toUInt16.toNat - 48 = d := by
  have key : ∀ m < 10, isDigit (48 + m).toUInt16 = true ∧ (48 + m).toUInt16.toNat - 48 = m := by
    decide
  exact key d h

theorem renderNat_digits (n : ℕ) : ∀ u ∈ renderNat n, isDigit u = true := by
  intro u hu
  unfold renderNat at hu
  split at hu
  · obtain rfl := List.mem_singleton.mp hu
    decide
  · rcases List.mem_map.mp hu with ⟨d, hd, rfl⟩
    exact (digit_unit (Nat.digits_lt_base (by decide) (List.mem_reverse.mp hd))).1

theorem parseNat_renderNat (n : ℕ) : parseNat (renderNat n) = n := by
  unfold parseNat renderNat
  split
  · rename_i h
    rw [h]
    rfl
  · rw [← List.map_reverse, List.reverse_reverse, List.map_map]
    calc Nat.ofDigits 10 ((Nat.digits 10 n).map ((·.toNat - 48) ∘ fun d => (48 + d).toUInt16))
        = Nat.ofDigits 10 ((Nat.digits 10 n).map id) := by
          congr 1
          refine List.map_congr_left fun d hd => ?_
          exact (digit_unit (Nat.digits_lt_base (by decide) hd)).2
      _ = n := by rw [List.map_id, Nat.ofDigits_digits]

/-- A literal is followed by something that is not a digit. -/
def NoDigit (rest : JsString) : Prop := ∀ u ∈ rest.head?, isDigit u = false

theorem span_renderNat (n : ℕ) {rest : JsString} (h : NoDigit rest) :
    (renderNat n ++ rest).takeWhile isDigit = renderNat n ∧
      (renderNat n ++ rest).dropWhile isDigit = rest := by
  rw [List.takeWhile_append_of_pos (renderNat_digits n),
    List.dropWhile_append_of_pos (renderNat_digits n)]
  cases rest with
  | nil => simp
  | cons u rest =>
    have hu : isDigit u = false := h u rfl
    simp [hu]

theorem renderNat_eq_cons (n : ℕ) : ∃ u rest, renderNat n = u :: rest ∧ isDigit u = true := by
  have hne : renderNat n ≠ [] := by
    unfold renderNat
    split
    · simp
    · rename_i h
      simpa [Nat.digits_eq_nil_iff_eq_zero] using h
  rcases List.exists_cons_of_ne_nil hne with ⟨u, rest, hcons⟩
  exact ⟨u, rest, hcons, renderNat_digits n u (by rw [hcons]; exact List.mem_cons_self)⟩

theorem parseInt_renderInt (n : ℤ) {rest : JsString} (h : NoDigit rest) :
    parseInt (renderInt n ++ rest) = (n, rest) := by
  rcases span_renderNat n.natAbs h with ⟨htake, hdrop⟩
  unfold renderInt
  split
  · simp only [List.cons_append, parseInt, if_true, htake, hdrop, parseNat_renderNat]
    refine Prod.ext ?_ rfl
    show -((n.natAbs : ℕ) : ℤ) = n
    omega
  · rcases renderNat_eq_cons n.natAbs with ⟨u, tail, hcons, hu⟩
    have hminus : u ≠ 45 := by
      rintro rfl
      exact absurd hu (by decide)
    rw [hcons, List.cons_append] at htake hdrop ⊢
    simp only [parseInt, if_neg hminus, htake, hdrop]
    rw [← hcons, parseNat_renderNat]
    refine Prod.ext ?_ rfl
    show ((n.natAbs : ℕ) : ℤ) = n
    omega

/-! ## Records -/

def renderValue : Json → JsString
  | .str s => 34 :: (s.flatMap escape ++ [34])
  | .num (.finite q) => renderInt q.num
  | _ => []

def renderMember (member : JsString × Json) : JsString :=
  34 :: (member.1 ++ 34 :: 58 :: renderValue member.2)

/-- The members up to the closing brace. -/
def renderMembers : Record → JsString
  | [] => [125]
  | [member] => renderMember member ++ [125]
  | member :: next :: rest => renderMember member ++ 44 :: renderMembers (next :: rest)

def jsonStringify : Json → JsString
  | .obj members => 123 :: renderMembers members
  | _ => []

def parseValue (text : JsString) : Option (Json × JsString) :=
  if text.head? = some 34 then
    (parseString text.length text.tail).map fun parsed => (.str parsed.1, parsed.2)
  else
    let parsed := parseInt text
    some (.num (.finite parsed.1), parsed.2)

def parseMembers : ℕ → JsString → Option Record
  | 0, _ => none
  | fuel + 1, text =>
    let name := text.tail.takeWhile (· ≠ 34)
    let afterColon := (text.tail.dropWhile (· ≠ 34)).drop 2
    (parseValue afterColon).bind fun parsed =>
      if parsed.2.head? = some 44 then
        (parseMembers fuel parsed.2.tail).map fun members => (name, parsed.1) :: members
      else some [(name, parsed.1)]

def jsonParse (text : JsString) : Option Json :=
  if text.tail.head? = some 125 then some (.obj [])
  else (parseMembers text.length text.tail).map .obj

theorem length_le_flatMap_escape (s : JsString) : s.length ≤ (s.flatMap escape).length := by
  induction s with
  | nil => simp
  | cons u s ih =>
    have hu : 1 ≤ (escape u).length := by
      unfold escape
      split
      · simp
      split <;> simp
    simp only [List.flatMap_cons, List.length_append, List.length_cons]
    omega

theorem parseValue_renderValue {value : Json} (h : PlainValue value) {rest : JsString}
    (hrest : NoDigit rest) : parseValue (renderValue value ++ rest) = some (value, rest) := by
  cases h with
  | str s =>
    have hlength := length_le_flatMap_escape s
    have hliteral : parseString (renderValue (.str s) ++ rest).length
        (s.flatMap escape ++ 34 :: rest) = some (s, rest) := by
      refine parseString_literal s rest ?_
      simp only [renderValue, List.length_append, List.length_cons]
      omega
    have htail : (renderValue (.str s) ++ rest).tail = s.flatMap escape ++ 34 :: rest := by
      simp [renderValue]
    rw [parseValue, if_pos (by simp [renderValue]), htail, hliteral]
    rfl
  | int n hn =>
    have hhead : (renderInt n ++ rest).head? ≠ some 34 := by
      unfold renderInt
      split
      · simp
      · rcases renderNat_eq_cons n.natAbs with ⟨u, tail, hcons, hu⟩
        rw [hcons]
        intro hquote
        obtain rfl : u = 34 := by simpa using hquote
        exact absurd hu (by decide)
    have hnum : ((n : ℚ)).num = n := Rat.num_intCast n
    rw [renderValue, hnum, parseValue, if_neg hhead]
    simp only [parseInt_renderInt n hrest]

theorem name_span {key : JsString} (h : IsName key) (rest : JsString) :
    (key ++ 34 :: rest).takeWhile (· ≠ 34) = key ∧
      (key ++ 34 :: rest).dropWhile (· ≠ 34) = 34 :: rest := by
  have hall : ∀ u ∈ key, (decide (u ≠ 34)) = true := by
    intro u hu
    have hlow := (h u hu).1
    rw [decide_eq_true_eq]
    rintro rfl
    exact absurd hlow (by decide)
  rw [List.takeWhile_append_of_pos hall, List.dropWhile_append_of_pos hall]
  simp

theorem parseMembers_renderMembers {record : Record} (hne : record ≠ [])
    (hnames : ∀ member ∈ record, IsName member.1) (hvalues : ∀ member ∈ record, PlainValue member.2)
    {fuel : ℕ} (hfuel : record.length ≤ fuel) :
    parseMembers fuel (renderMembers record) = some record := by
  induction record generalizing fuel with
  | nil => exact absurd rfl hne
  | cons member record ih =>
    obtain ⟨fuel, rfl⟩ : ∃ n, fuel = n + 1 := by
      simp only [List.length_cons] at hfuel
      exact ⟨fuel - 1, by omega⟩
    have hname := hnames member List.mem_cons_self
    have hvalue := hvalues member List.mem_cons_self
    have step (rest : JsString) (hrest : NoDigit rest) :
        parseMembers (fuel + 1) (renderMember member ++ rest) =
          if rest.head? = some 44 then
            (parseMembers fuel rest.tail).map fun members => member :: members
          else some [member] := by
      rcases name_span hname (58 :: (renderValue member.2 ++ rest)) with ⟨htake, hdrop⟩
      have htail : (renderMember member ++ rest).tail =
          member.1 ++ 34 :: 58 :: (renderValue member.2 ++ rest) := by
        simp [renderMember]
      simp only [parseMembers, htail, htake, hdrop, List.drop_succ_cons, List.drop_zero,
        parseValue_renderValue hvalue hrest, Option.bind_some]
    cases record with
    | nil =>
      rw [renderMembers, step [125] (by simp [NoDigit, isDigit])]
      simp
    | cons next rest =>
      have hnext := ih (by simp) (fun m hm => hnames m (List.mem_cons_of_mem _ hm))
        (fun m hm => hvalues m (List.mem_cons_of_mem _ hm))
        (show (next :: rest).length ≤ fuel by simpa using hfuel)
      rw [renderMembers, step (44 :: renderMembers (next :: rest)) (by simp [NoDigit, isDigit])]
      simp [hnext]

theorem length_le_renderMembers (record : Record) :
    record.length ≤ (renderMembers record).length := by
  fun_induction renderMembers record with
  | case1 => simp
  | case2 member => simp [renderMember]
  | case3 member next rest ih =>
    simp only [List.length_cons, List.length_append] at ih ⊢
    omega

/-- Some members start with a quote. -/
theorem head_renderMembers (member : JsString × Json) (rest : Record) :
    (renderMembers (member :: rest)).head? = some 34 := by
  cases rest with
  | nil => rfl
  | cons next rest => rfl

/-! ## The laws -/

theorem escape_printable (u : UInt16) : IsPrintable (escape u) := by
  have hex : ∀ m < 16, 0x20 ≤ hexDigit m ∧ hexDigit m ≤ 0x7E := by decide
  have hu := u.toNat_lt
  unfold escape
  intro w hw
  split at hw
  · -- a backslash and what it quotes
    rename_i hquote
    simp only [List.mem_cons, List.not_mem_nil, or_false] at hw
    rcases hw with rfl | rfl
    · decide
    · rcases hquote with rfl | rfl <;> decide
  split at hw
  · -- the unit itself
    rename_i hprint
    obtain rfl := List.mem_singleton.mp hw
    have hlt : w.toNat < 127 := UInt16.lt_iff_toNat_lt.mp hprint.2
    exact ⟨hprint.1, UInt16.le_iff_toNat_le.mpr (Nat.le_of_lt_succ hlt)⟩
  · -- its four hexadecimal digits
    simp only [List.mem_cons, List.not_mem_nil, or_false] at hw
    rcases hw with rfl | rfl | rfl | rfl | rfl | rfl
    · decide
    · decide
    · exact hex _ (by omega)
    · exact hex _ (by omega)
    · exact hex _ (by omega)
    · exact hex _ (by omega)

theorem renderNat_printable (n : ℕ) : IsPrintable (renderNat n) := by
  intro u hu
  have hdigit := renderNat_digits n u hu
  simp only [isDigit, Bool.and_eq_true, decide_eq_true_eq] at hdigit
  exact ⟨UInt16.le_trans (by decide) hdigit.1, UInt16.le_trans hdigit.2 (by decide)⟩

theorem renderValue_printable (value : Json) : IsPrintable (renderValue value) := by
  have hnil : IsPrintable [] := fun _ h => nomatch h
  unfold renderValue
  split
  · rename_i s
    refine isPrintable_cons (by decide) (isPrintable_append ?_ (isPrintable_cons (by decide) hnil))
    intro u hu
    rcases List.mem_flatMap.mp hu with ⟨w, -, hw⟩
    exact escape_printable w u hw
  · unfold renderInt
    split
    · exact isPrintable_cons (by decide) (renderNat_printable _)
    · exact renderNat_printable _
  · exact hnil

/-- The text of a record, whatever its strings. -/
theorem renderMembers_printable {record : Record} (hnames : ∀ member ∈ record, IsName member.1) :
    IsPrintable (renderMembers record) := by
  have hend : IsPrintable [125] := by
    intro u hu
    obtain rfl := List.mem_singleton.mp hu
    decide
  have hmember {member : JsString × Json} (h : IsName member.1) :
      IsPrintable (renderMember member) := by
    refine isPrintable_cons (by decide) (isPrintable_append ?_ (isPrintable_cons (by decide)
      (isPrintable_cons (by decide) (renderValue_printable _))))
    refine isPrintable_of_range ?_
    intro u hu
    have hletter := h u hu
    omega
  fun_induction renderMembers record with
  | case1 => exact hend
  | case2 member => exact isPrintable_append (hmember (hnames member List.mem_cons_self)) hend
  | case3 member next rest ih =>
    refine isPrintable_append (hmember (hnames member List.mem_cons_self))
      (isPrintable_cons (by decide) ?_)
    exact ih fun m hm => hnames m (List.mem_cons_of_mem _ hm)

/-- The reference Node with a given MAC. -/
def node (hmacSha256 : Bytes → Bytes → Bytes) : Node :=
  { jsonStringify, jsonParse, decodeText, hmacSha256 }

theorem node_lawful (hmacSha256 : Bytes → Bytes → Bytes) : (node hmacSha256).Lawful where
  parse_stringify := by
    intro record hplain
    show jsonParse (123 :: renderMembers record) = some (.obj record)
    cases record with
    | nil => rfl
    | cons member rest =>
      have hlength : (member :: rest).length ≤ (123 :: renderMembers (member :: rest)).length :=
        Nat.le_succ_of_le (length_le_renderMembers _)
      have hhead : (renderMembers (member :: rest)).head? ≠ some 125 := by
        rw [head_renderMembers]
        decide
      simp only [jsonParse, List.tail_cons, if_neg hhead,
        parseMembers_renderMembers (List.cons_ne_nil _ _) hplain.names hplain.values hlength,
        Option.map_some]
  decode_encode := by
    intro record hplain
    have hprintable : IsPrintable (123 :: renderMembers record) :=
      isPrintable_cons (by decide) (renderMembers_printable hplain.names)
    exact decodeText_ascii hprintable.isAscii

theorem node_stringifiesPrintable (hmacSha256 : Bytes → Bytes → Bytes) :
    (node hmacSha256).StringifiesPrintable := by
  intro record hplain _
  exact isPrintable_cons (by decide) (renderMembers_printable hplain.names)

end XClone.Js.Reference
