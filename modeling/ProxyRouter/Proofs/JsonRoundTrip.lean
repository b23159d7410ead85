import ProxyRouter.Json.Parse
import ProxyRouter.Json.Print
import Mathlib.Data.List.Basic
/-!
Compact JSON text reads back as the value it was written from, for values without number
literals and times: a string's escapes, `\u` escapes included, are read back to its characters,
and the items and members are read in order, with nothing read past the closing bracket.
-/
namespace ProxyRouter.Json

/-! ### Strings -/

theorem hexValue_digitChar : ∀ d, d < 16 → hexValue (Nat.digitChar d) = some d := by decide

theorem hexDigits_four (n : Nat) : Text.hexDigits 4 n =
    [Nat.digitChar (n / 4096 % 16), Nat.digitChar (n / 256 % 16), Nat.digitChar (n / 16 % 16),
      Nat.digitChar (n % 16)] := by
  simp [Text.hexDigits, List.range_succ]

theorem hex4_hexDigits (n : Nat) (hn : n < 65536) (rest : List Char) :
    hex4 (Text.hexDigits 4 n ++ rest) = some (n, rest) := by
  rw [hexDigits_four]
  simp only [List.cons_append, List.nil_append, hex4,
    hexValue_digitChar _ (Nat.mod_lt _ (by omega : 16 > 0))]
  congr 2
  omega

theorem readEscape_unicode (c : Char) (hc : c.toNat < 65536) (hs : isSurrogate c.toNat = false)
    (rest : List Char) : readEscape 'u' (Text.hexDigits 4 c.toNat ++ rest) = .ok (c, rest) := by
  simp [readEscape, hex4_hexDigits _ hc, hs, Char.ofNat_toNat]

theorem readString_escapeChar (c : Char) (fuel : Nat) (acc tail : List Char) :
    readString (fuel + 1) acc (escapeChar c ++ tail) = readString fuel (c :: acc) tail := by
  unfold escapeChar
  -- the one-letter escapes and the escapes of `<`, `>` and `&` compute
  split
  all_goals first
    | rfl
    | skip
  rename_i hq hb _ _ _ _ _ _ _ _
  split
  · rename_i hlow
    have hbound : c.toNat < 65536 ∧ isSurrogate c.toNat = false := by
      simp only [Bool.or_eq_true, decide_eq_true_eq, beq_iff_eq] at hlow
      refine ⟨by omega, ?_⟩
      simp only [isSurrogate, Bool.and_eq_false_iff, decide_eq_false_iff_not, Nat.not_le,
        Nat.not_lt]
      omega
    simp only [List.cons_append, readString, readEscape_unicode c hbound.1 hbound.2]
  · rename_i hhigh
    have hlow : ¬ c.toNat < 32 := by
      simp only [Bool.or_eq_true, decide_eq_true_eq, beq_iff_eq, not_or] at hhigh
      exact hhigh.1.1
    rw [List.singleton_append, readString.eq_6 _ _ _ _ hq hb, if_neg hlow]

theorem length_le_flatMap_escapeChar (s : List Char) : s.length ≤ (s.flatMap escapeChar).length := by
  induction s with
  | nil => simp
  | cons c s ih =>
    have hc : 1 ≤ (escapeChar c).length := by
      unfold escapeChar
      split <;> (try split) <;> simp
    simp only [List.flatMap_cons, List.length_append, List.length_cons]
    omega

theorem readString_escaped (s : List Char) :
    ∀ (fuel : Nat) (acc rest : List Char), s.length < fuel →
      readString fuel acc (s.flatMap escapeChar ++ '"' :: rest) =
        .ok (String.ofList (acc.reverse ++ s), rest) := by
  induction s with
  | nil =>
    intro fuel acc rest h
    obtain ⟨f, rfl⟩ : ∃ f, fuel = f + 1 := ⟨fuel - 1, by simp at h; omega⟩
    simp [readString.eq_3]
  | cons c s ih =>
    intro fuel acc rest h
    obtain ⟨f, rfl⟩ : ∃ f, fuel = f + 1 := ⟨fuel - 1, by simp at h; omega⟩
    rw [List.flatMap_cons, List.append_assoc, readString_escapeChar,
      ih f (c :: acc) rest (by simpa using h)]
    simp

theorem toList_quoteString (s : String) :
    (quoteString s).toList = '"' :: (s.toList.flatMap escapeChar ++ ['"']) := by
  simp [quoteString]

theorem readString_quoteString (s : String) (rest : List Char) :
    readString ((s.toList.flatMap escapeChar ++ '"' :: rest).length + 1) []
      (s.toList.flatMap escapeChar ++ '"' :: rest) = .ok (s, rest) := by
  rw [readString_escaped _ _ _ _ (by
    have := length_le_flatMap_escapeChar s.toList
    simp only [List.length_append, List.length_cons]
    omega)]
  simp

/-! ### Values -/

/-- A value whose compact text reads back as itself: no number literal, whose text need not be
JSON, and no time, which is written as a string. -/
inductive Plain : Json → Prop
  | null : Plain .null
  | bool (b : Bool) : Plain (.bool b)
  | string (s : String) : Plain (.string s)
  | array {xs : List Json} : (∀ x ∈ xs, Plain x) → Plain (.array xs)
  | object {ms : List (String × Json)} : (∀ m ∈ ms, Plain m.2) → Plain (.object ms)

/-- The compact text of the value, followed by anything, reads back as the value when the reader
has more fuel than the text has characters. -/
def ReadsBack (v : Json) : Prop :=
  ∀ (fuel : Nat) (rest : List Char), (compact v).toList.length < fuel →
    readValue fuel ((compact v).toList ++ rest) = .ok (v, rest)

theorem compactItems_eq_map (xs : List Json) : compactItems xs = xs.map compact := by
  induction xs with
  | nil => rfl
  | cons x xs ih => simp [compactItems, ih]

theorem compactMembers_eq_map (ms : List (String × Json)) :
    compactMembers ms = ms.map fun m => quoteString m.1 ++ ":" ++ compact m.2 := by
  induction ms with
  | nil => rfl
  | cons m ms ih => simp [compactMembers, ih]

theorem Plain.head {v : Json} (hv : Plain v) :
    ∃ c t, (compact v).toList = c :: t ∧ isSpace c = false ∧ c ≠ ']' ∧ c ≠ '}' := by
  cases hv with
  | null => exact ⟨'n', "ull".toList, by simp [compact], by decide, by decide, by decide⟩
  | bool b =>
    cases b
    · exact ⟨'f', "alse".toList, by simp [compact], by decide, by decide, by decide⟩
    · exact ⟨'t', "rue".toList, by simp [compact], by decide, by decide, by decide⟩
  | string s => exact ⟨'"', _, by rw [compact, toList_quoteString], by decide, by decide, by decide⟩
  | array _ => exact ⟨'[', _, by simp [compact]; rfl, by decide, by decide, by decide⟩
  | object _ => exact ⟨'\x7b', _, by simp [compact]; rfl, by decide, by decide, by decide⟩

theorem dropWhile_isSpace_cons {c : Char} (h : isSpace c = false) (r : List Char) :
    (c :: r).dropWhile isSpace = c :: r :=
  List.dropWhile_cons_of_neg (by simp [h])

theorem Plain.dropWhile_isSpace {v : Json} (hv : Plain v) (rest : List Char) :
    ((compact v).toList ++ rest).dropWhile isSpace = (compact v).toList ++ rest := by
  obtain ⟨c, t, hct, hsp, -⟩ := hv.head
  rw [hct, List.cons_append, dropWhile_isSpace_cons hsp]

theorem readItems_compact {x : Json} {xs : List Json} (hx : Plain x ∧ ReadsBack x)
    (hxs : ∀ y ∈ xs, Plain y ∧ ReadsBack y) :
    ∀ (fuel : Nat) (first : Bool) (acc : List Json) (rest : List Char),
      (",".intercalate ((x :: xs).map compact)).toList.length + 1 < fuel →
      readItems fuel first acc ((",".intercalate ((x :: xs).map compact)).toList ++ ']' :: rest) =
        .ok (.array (acc.reverse ++ x :: xs), rest) := by
  induction xs generalizing x with
  | nil =>
    intro fuel first acc rest hlen
    simp only [List.map_cons, List.map_nil, String.intercalate_singleton] at hlen ⊢
    obtain ⟨f, rfl⟩ : ∃ f, fuel = f + 1 := ⟨fuel - 1, by omega⟩
    obtain ⟨c, t, hct, -, hbr, -⟩ := hx.1.head
    rw [readItems.eq_2, hx.1.dropWhile_isSpace]
    split
    · rename_i heq
      rw [hct] at heq
      exact absurd (List.cons.inj heq).1 hbr
    · rw [hx.2 f (']' :: rest) (by omega)]
      simp [dropWhile_isSpace_cons (by decide : isSpace ']' = false)]
  | cons y ys ih =>
    intro fuel first acc rest hlen
    have hc : ",".toList = [','] := rfl
    simp only [List.map_cons, String.intercalate_cons_cons, String.toList_append, hc,
      List.length_append, List.append_assoc, List.cons_append, List.nil_append,
      List.length_cons] at hlen ⊢
    obtain ⟨f, rfl⟩ : ∃ f, fuel = f + 1 := ⟨fuel - 1, by omega⟩
    obtain ⟨c, t, hct, -, hbr, -⟩ := hx.1.head
    have hrest := ih (hxs y List.mem_cons_self) (fun z hz => hxs z (List.mem_cons_of_mem y hz))
      f false (x :: acc) rest (by simp only [List.map_cons]; omega)
    simp only [List.map_cons] at hrest
    rw [readItems.eq_2, hx.1.dropWhile_isSpace]
    split
    · rename_i heq
      rw [hct] at heq
      exact absurd (List.cons.inj heq).1 hbr
    · rw [hx.2 f _ (by omega)]
      simp only [dropWhile_isSpace_cons (by decide : isSpace ',' = false), hrest]
      simp

theorem toList_member (m : String × Json) :
    (quoteString m.1 ++ ":" ++ compact m.2).toList =
      '"' :: (m.1.toList.flatMap escapeChar ++ '"' :: ':' :: (compact m.2).toList) := by
  simp [toList_quoteString]

theorem readMembers_compact {m : String × Json} {ms : List (String × Json)}
    (hm : Plain m.2 ∧ ReadsBack m.2) (hms : ∀ n ∈ ms, Plain n.2 ∧ ReadsBack n.2) :
    ∀ (fuel : Nat) (first : Bool) (acc : List (String × Json)) (rest : List Char),
      (",".intercalate ((m :: ms).map fun m => quoteString m.1 ++ ":" ++ compact m.2)).toList.length
        + 1 < fuel →
      readMembers fuel first acc
          ((",".intercalate ((m :: ms).map fun m => quoteString m.1 ++ ":" ++ compact m.2)).toList
            ++ '}' :: rest) =
        .ok (.object (acc.reverse ++ m :: ms), rest) := by
  induction ms generalizing m with
  | nil =>
    intro fuel first acc rest hlen
    simp only [List.map_cons, List.map_nil, String.intercalate_singleton, toList_member,
      List.length_cons, List.length_append] at hlen ⊢
    obtain ⟨f, rfl⟩ : ∃ f, fuel = f + 1 := ⟨fuel - 1, by omega⟩
    simp only [List.cons_append, List.append_assoc]
    rw [readMembers.eq_2, dropWhile_isSpace_cons (by decide)]
    simp only [readString_quoteString, dropWhile_isSpace_cons (by decide : isSpace ':' = false)]
    rw [hm.2 f _ (by omega)]
    simp [dropWhile_isSpace_cons (by decide : isSpace '\x7d' = false)]
  | cons n ns ih =>
    intro fuel first acc rest hlen
    have hc : ",".toList = [','] := rfl
    have hcolon : ":".toList = [':'] := rfl
    have hrest := ih (hms n List.mem_cons_self) (fun k hk => hms k (List.mem_cons_of_mem n hk))
    simp only [List.map_cons, String.intercalate_cons_cons, String.toList_append, hc, hcolon,
      toList_quoteString, List.cons_append, List.nil_append, List.append_assoc,
      List.length_append, List.length_cons] at hlen hrest ⊢
    obtain ⟨f, rfl⟩ : ∃ f, fuel = f + 1 := ⟨fuel - 1, by omega⟩
    rw [readMembers.eq_2, dropWhile_isSpace_cons (by decide)]
    simp only [readString_quoteString, dropWhile_isSpace_cons (by decide : isSpace ':' = false)]
    rw [hm.2 f _ (by omega)]
    simp only [dropWhile_isSpace_cons (by decide : isSpace ',' = false),
      hrest f false (m :: acc) rest (by omega)]
    simp

theorem readsBack_null : ReadsBack .null := by
  intro fuel rest h
  obtain ⟨f, rfl⟩ : ∃ f, fuel = f + 1 := ⟨fuel - 1, by simp [compact] at h; omega⟩
  simp [compact, readValue.eq_2, readWord, Except.map,
    dropWhile_isSpace_cons (by decide : isSpace 'n' = false)]

theorem readsBack_bool (b : Bool) : ReadsBack (.bool b) := by
  intro fuel rest h
  obtain ⟨f, rfl⟩ : ∃ f, fuel = f + 1 := ⟨fuel - 1, by cases b <;> simp [compact] at h <;> omega⟩
  cases b
  · simp [compact, readValue.eq_2, readWord, Except.map,
      dropWhile_isSpace_cons (by decide : isSpace 'f' = false)]
  · simp [compact, readValue.eq_2, readWord, Except.map,
      dropWhile_isSpace_cons (by decide : isSpace 't' = false)]

theorem readsBack_string (s : String) : ReadsBack (.string s) := by
  intro fuel rest h
  obtain ⟨f, rfl⟩ : ∃ f, fuel = f + 1 := ⟨fuel - 1, by omega⟩
  simp only [compact, toList_quoteString, List.cons_append, List.append_assoc]
  rw [readValue.eq_2, dropWhile_isSpace_cons (by decide)]
  simp only
  rw [readString_quoteString]
  rfl

theorem readsBack_array {xs : List Json} (h : ∀ x ∈ xs, Plain x ∧ ReadsBack x) :
    ReadsBack (.array xs) := by
  intro fuel rest hlen
  have hopen : "[".toList = ['['] := rfl
  have hclose : "]".toList = [']'] := rfl
  simp only [compact, compactItems_eq_map, String.toList_append, hopen, hclose,
    List.length_append, List.length_cons, List.length_nil, List.cons_append, List.nil_append,
    List.append_assoc] at hlen ⊢
  obtain ⟨f, rfl⟩ : ∃ f, fuel = f + 1 := ⟨fuel - 1, by omega⟩
  rw [readValue.eq_2, dropWhile_isSpace_cons (by decide)]
  simp only
  cases xs with
  | nil =>
    obtain ⟨g, rfl⟩ : ∃ g, f = g + 1 := ⟨f - 1, by simp at hlen; omega⟩
    simp [readItems.eq_2, dropWhile_isSpace_cons (by decide : isSpace ']' = false)]
  | cons x xs =>
    rw [readItems_compact (h x List.mem_cons_self) (fun y hy => h y (List.mem_cons_of_mem x hy))
      f true [] rest (by omega)]
    rfl

theorem readsBack_object {ms : List (String × Json)} (h : ∀ m ∈ ms, Plain m.2 ∧ ReadsBack m.2) :
    ReadsBack (.object ms) := by
  intro fuel rest hlen
  have hopen : "\x7b".toList = ['\x7b'] := rfl
  have hclose : "\x7d".toList = ['\x7d'] := rfl
  simp only [compact, compactMembers_eq_map, String.toList_append, hopen, hclose,
    List.length_append, List.length_cons, List.length_nil, List.cons_append, List.nil_append,
    List.append_assoc] at hlen ⊢
  obtain ⟨f, rfl⟩ : ∃ f, fuel = f + 1 := ⟨fuel - 1, by omega⟩
  rw [readValue.eq_2, dropWhile_isSpace_cons (by decide)]
  simp only
  cases ms with
  | nil =>
    obtain ⟨g, rfl⟩ : ∃ g, f = g + 1 := ⟨f - 1, by simp at hlen; omega⟩
    simp [readMembers.eq_2, dropWhile_isSpace_cons (by decide : isSpace '\x7d' = false)]
  | cons m ms =>
    rw [readMembers_compact (h m List.mem_cons_self) (fun n hn => h n (List.mem_cons_of_mem m hn))
      f true [] rest (by omega)]
    rfl

theorem Plain.readsBack {v : Json} (hv : Plain v) : ReadsBack v := by
  induction hv with
  | null => exact readsBack_null
  | bool b => exact readsBack_bool b
  | string s => exact readsBack_string s
  | array hxs ih => exact readsBack_array fun x hx => ⟨hxs x hx, ih x hx⟩
  | object hms ih => exact readsBack_object fun m hm => ⟨hms m hm, ih m hm⟩

theorem Plain.readValue {v : Json} (hv : Plain v) :
    readValue ((compact v).toList.length + 1) (compact v).toList = .ok (v, []) := by
  simpa using hv.readsBack ((compact v).toList.length + 1) [] (Nat.lt_succ_self _)

theorem parse_compact {v : Json} (hv : Plain v) : parse (compact v) = .ok v := by
  simp [parse, hv.readValue]

theorem parsePrefix_compact {v : Json} (hv : Plain v) : parsePrefix (compact v) = .ok v := by
  simp [parsePrefix, hv.readValue, Except.map]

end ProxyRouter.Json
