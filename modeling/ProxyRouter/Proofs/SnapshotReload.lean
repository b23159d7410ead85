import ProxyRouter.Pool.Snapshot
import ProxyRouter.Selection.Selector
import ProxyRouter.Proofs.NumberText
import Mathlib.Data.String.Basic
/-!
Saved health snapshots read back. Every name comes back once, in increasing order, with the last
sample saved under it: its success, latency and error as they were, its three scores as the same
binary64 values, not-a-number included, and its time to whole milliseconds. A time that is not
after the epoch comes back as the zero time, the epoch itself included.
-/
namespace ProxyRouter

/-- The time a snapshot keeps: whole Unix milliseconds when they are after the epoch, and the zero
time otherwise. -/
def Instant.reloaded (t : Instant) : Instant :=
  if 0 < t.unixMillis then .ofUnixMillis t.unixMillis else .zero

theorem Instant.reloaded_eq (t : Instant) :
    (if (if t.isZero then 0 else t.unixMillis) > 0 then
      Instant.ofUnixMillis (if t.isZero then 0 else t.unixMillis) else Instant.zero) =
      t.reloaded := by
  unfold Instant.reloaded
  by_cases h : t.isZero
  · have ht : t = Instant.zero := by simpa [Instant.isZero] using h
    subst ht
    rfl
  · simp only [h, Bool.false_eq_true, if_false, gt_iff_lt]

namespace Selection.Selector

theorem named?_cons {α : Type} (x : String × α) (xs : List (String × α)) (n : String) :
    named? (x :: xs) n = if x.1 = n then some x.2 else named? xs n := by
  by_cases h : x.1 = n <;> simp [named?, h]

theorem named?_append {α : Type} (xs ys : List (String × α)) (n : String) :
    named? (xs ++ ys) n = (named? xs n).or (named? ys n) := by
  simp [named?, List.find?_append, Option.map_or]

theorem named?_map {α β : Type} (f : α → β) (xs : List (String × α)) (n : String) :
    named? (xs.map fun e => (e.1, f e.2)) n = (named? xs n).map f := by
  induction xs with
  | nil => rfl
  | cons x xs ih => by_cases h : x.1 = n <;> simp [named?_cons, h, ih]

end Selection.Selector

namespace Pool

def HealthSample.reloaded (s : HealthSample) : HealthSample :=
  { s with timestamp := s.timestamp.reloaded }

open Decimal Selection

/-! ### Escaping -/

theorem unescapeChars_cons {c : Char} (hc : c ≠ '%') (rest : List Char) :
    unescapeChars (c :: rest) = c :: unescapeChars rest := by
  rw [unescapeChars.eq_def]
  split <;> simp_all

theorem unescapeChars_escapeChar (c : Char) (rest : List Char) :
    unescapeChars (escapeChar c ++ rest) = c :: unescapeChars rest := by
  unfold escapeChar
  split
  · rfl
  · rfl
  · rfl
  · rfl
  · rename_i h _ _ _
    exact unescapeChars_cons h rest

theorem unescapeChars_flatMap_escapeChar (cs : List Char) :
    unescapeChars (cs.flatMap escapeChar) = cs := by
  induction cs with
  | nil => rfl
  | cons c cs ih => rw [List.flatMap_cons, unescapeChars_escapeChar, ih]

@[simp]
theorem unescapeChars_escapeField (s : String) :
    String.ofList (unescapeChars (escapeField s).toList) = s := by
  rw [escapeField, String.toList_ofList, unescapeChars_flatMap_escapeChar, String.ofList_toList]

/-! ### Text without separators -/

def FieldText (cs : List Char) : Prop := ∀ c ∈ cs, c ≠ '|' ∧ c ≠ '\n' ∧ c ≠ '\r'

instance : DecidablePred FieldText := fun cs => List.decidableBAll _ cs

theorem FieldText.append {as bs : List Char} (ha : FieldText as) (hb : FieldText bs) :
    FieldText (as ++ bs) := by
  intro c hc
  rcases List.mem_append.1 hc with h | h
  exacts [ha c h, hb c h]

theorem FieldText.bar_not_mem {cs : List Char} (h : FieldText cs) : '|' ∉ cs := fun hm =>
  (h _ hm).1 rfl

theorem fieldText_of_isDigit {cs : List Char} (h : ∀ c ∈ cs, c.isDigit = true) : FieldText cs := by
  intro c hc
  have hd := h c hc
  refine ⟨?_, ?_, ?_⟩ <;> (rintro rfl; exact absurd hd (by decide))

theorem fieldText_escapeChar (c : Char) : FieldText (escapeChar c) := by
  unfold escapeChar
  split
  -- the four escapes are `%` and two hexadecimal digits
  any_goals decide
  rename_i _ h₁ h₂ h₃
  simpa [FieldText] using ⟨h₁, h₂, h₃⟩

theorem fieldText_escapeField (s : String) : FieldText (escapeField s).toList := by
  rw [escapeField, String.toList_ofList]
  intro c hc
  obtain ⟨d, -, hd⟩ := List.mem_flatMap.1 hc
  exact fieldText_escapeChar d c hd

theorem fieldText_toString_int (i : Int) : FieldText (toString i).toList := by
  have hds : FieldText (Nat.toDigits 10 i.natAbs) :=
    fieldText_of_isDigit fun c hc => isDigit_of_mem_digitsOf hc
  rw [Int.toString_eq_repr, Int.repr_eq_if]
  split_ifs
  · rwa [Nat.toList_repr, show i.toNat = i.natAbs by omega]
  · rw [String.toList_append, Nat.toList_repr, show (-i).toNat = i.natAbs by omega]
    exact FieldText.append (by decide) hds

theorem fieldText_positional {ds : List Char} (hds : ∀ c ∈ ds, c.isDigit = true) (dp : Int) :
    FieldText (positional ds dp) := by
  have hz : ∀ n, FieldText (zeros n) := fun n =>
    fieldText_of_isDigit fun c hc => isDigit_of_mem_zeros hc
  have hpoint : FieldText ['.'] := by decide
  have hd := fieldText_of_isDigit hds
  unfold positional
  split_ifs
  · exact FieldText.append (show FieldText ['0', '.'] by decide) ((hz _).append hd)
  · exact hd.append (hz _)
  · exact FieldText.append (fun c hc => hd c (List.mem_of_mem_take hc))
      (hpoint.append fun c hc => hd c (List.mem_of_mem_drop hc))

theorem fieldText_formatFloat (x : Float) : FieldText (formatFloat .fixed x).toList := by
  unfold formatFloat Binary.render
  dsimp only
  split
  · -- `NaN`, `-Inf` and `+Inf`
    split
    · decide
    · split <;> decide
  · have hp : ∀ dp, FieldText (positional (digitsOf (Binary.ofBits x.toBits).shortest.digits) dp) :=
      fieldText_positional fun c hc => isDigit_of_mem_digitsOf hc
    rw [String.toList_ofList]
    split
    · exact FieldText.append (show FieldText ['-'] by decide) (hp _)
    · exact hp _

/-! ### The fields of a line -/

theorem splitText_intercalate {sep : Char} {joint : String} (hj : joint.toList = [sep])
    {pieces : List String} (hne : pieces ≠ []) (h : ∀ p ∈ pieces, sep ∉ p.toList) :
    splitText sep (joint.intercalate pieces) = pieces := by
  have hsplit : ([sep].intercalate (pieces.map String.toList)).splitOn sep =
      pieces.map String.toList :=
    List.splitOn_intercalate sep (by simpa using h) (by simpa using hne)
  rw [splitText, String.toList_intercalate, hj, hsplit, List.map_map]
  simp

theorem fieldText_sampleFields (name : String) (s : HealthSample) :
    ∀ p ∈ sampleFields name s, FieldText p.toList := by
  have hbool : ∀ b : Bool, FieldText (if b then "true" else "false").toList := by
    intro b
    cases b <;> (decide)
  simp only [sampleFields, List.mem_cons, List.not_mem_nil, or_false]
  rintro p (rfl | rfl | rfl | rfl | rfl | rfl | rfl | rfl)
  exacts [fieldText_escapeField _, fieldText_toString_int _, hbool _, fieldText_toString_int _,
    fieldText_formatFloat _, fieldText_formatFloat _, fieldText_formatFloat _,
    fieldText_escapeField _]

theorem splitText_formatSample (name : String) (s : HealthSample) :
    splitText '|' (formatSample name s) = sampleFields name s :=
  splitText_intercalate rfl (List.cons_ne_nil _ _)
    fun p hp => (fieldText_sampleFields name s p hp).bar_not_mem

theorem mem_intercalate_singleton {x c : Char} {ls : List (List Char)}
    (h : c ∈ [x].intercalate ls) : c = x ∨ ∃ l ∈ ls, c ∈ l := by
  induction ls with
  | nil => simp at h
  | cons l ls ih =>
    cases ls with
    | nil => exact Or.inr ⟨l, List.mem_singleton_self l, by simpa using h⟩
    | cons l' ls =>
      rw [List.intercalate_cons_cons] at h
      simp only [List.mem_append, List.mem_singleton] at h
      rcases h with (h | h) | h
      · exact Or.inr ⟨l, List.mem_cons_self, h⟩
      · exact Or.inl h
      · rcases ih h with h | ⟨l'', hl, hc⟩
        · exact Or.inl h
        · exact Or.inr ⟨l'', List.mem_cons_of_mem _ hl, hc⟩

theorem lineEnd_not_mem_formatSample (name : String) (s : HealthSample) :
    ∀ c ∈ (formatSample name s).toList, c ≠ '\n' ∧ c ≠ '\r' := by
  intro c hc
  rw [formatSample, String.toList_intercalate] at hc
  rcases mem_intercalate_singleton hc with rfl | ⟨l, hl, hcl⟩
  · decide
  · obtain ⟨p, hp, rfl⟩ := List.mem_map.1 hl
    exact (fieldText_sampleFields name s p hp c hcl).2

theorem formatSample_ne_empty (name : String) (s : HealthSample) : formatSample name s ≠ "" := by
  intro h
  have hlen := congrArg List.length (splitText_formatSample name s)
  rw [h, show splitText '|' "" = [""] from rfl] at hlen
  simp [sampleFields] at hlen

theorem readBool_text (b : Bool) : readBool (if b then "true" else "false") = some b := by
  cases b <;> rfl

theorem parseFields_formatSample {name : String} {s : HealthSample} (hname : name ≠ "")
    (hlatency : -2 ^ 63 ≤ s.latencyMs ∧ s.latencyMs < 2 ^ 63)
    (htime : -2 ^ 63 ≤ s.timestamp.unixMillis ∧ s.timestamp.unixMillis < 2 ^ 63) :
    parseFields (splitText '|' (formatSample name s)) = some (name, s.reloaded) := by
  have hts : readInt (toString (if s.timestamp.isZero then 0 else s.timestamp.unixMillis)) =
      .ok (if s.timestamp.isZero then 0 else s.timestamp.unixMillis) := by
    split
    · exact readInt_toString (by decide) (by decide)
    · exact readInt_toString htime.1 htime.2
  have hempty : name.isEmpty = false := by simpa using hname
  rw [splitText_formatSample]
  simp only [sampleFields, parseFields, unescapeChars_escapeField, hempty, Bool.false_eq_true,
    if_false, hts, readBool_text, readInt_toString hlatency.1 hlatency.2,
    readFloat_formatFloat_fixed, Instant.reloaded_eq]
  rfl

theorem readSampleLine_formatSample {name : String} {s : HealthSample} (hname : name ≠ "")
    (hlatency : -2 ^ 63 ≤ s.latencyMs ∧ s.latencyMs < 2 ^ 63)
    (htime : -2 ^ 63 ≤ s.timestamp.unixMillis ∧ s.timestamp.unixMillis < 2 ^ 63)
    (acc : List (String × HealthSample)) :
    readSampleLine acc (formatSample name s) = insertByName (name, s.reloaded) acc := by
  have hempty : (formatSample name s).isEmpty = false := by
    simpa using formatSample_ne_empty name s
  rw [readSampleLine, hempty, parseFields_formatSample hname hlatency htime]
  rfl

/-! ### The lines of a text -/

theorem splitOn_lines {x : Char} {ls : List (List Char)} (h : ∀ l ∈ ls, x ∉ l) :
    (ls.flatMap (· ++ [x])).splitOn x = ls ++ [[]] := by
  induction ls with
  | nil => rfl
  | cons l ls ih =>
    rw [List.flatMap_cons, List.append_assoc, List.singleton_append,
      List.splitOn_append_cons_self_of_not_mem (h l List.mem_cons_self),
      ih fun l' hl' => h l' (List.mem_cons_of_mem _ hl'), List.cons_append]

theorem toList_joinLines (lines : List String) :
    (String.join (lines.map (· ++ "\n"))).toList =
      (lines.map String.toList).flatMap (· ++ ['\n']) := by
  simp [String.toList_join, List.flatMap_map]

theorem splitText_joinLines {lines : List String} (h : ∀ l ∈ lines, '\n' ∉ l.toList) :
    splitText '\n' (String.join (lines.map (· ++ "\n"))) = lines ++ [""] := by
  rw [splitText, toList_joinLines, splitOn_lines (by simpa using h)]
  simp

theorem textLines_joinLines {lines : List String} (hne : lines ≠ [])
    (h : ∀ l ∈ lines, '\n' ∉ l.toList ∧ '\r' ∉ l.toList) :
    textLines (String.join (lines.map (· ++ "\n"))) = lines := by
  have hlast : ((lines.map String.toList).flatMap (· ++ ['\n'])).getLast? = some '\n' := by
    obtain ⟨init, last, rfl⟩ := List.eq_nil_or_concat lines |>.resolve_left hne
    simp
  unfold textLines
  rw [toList_joinLines, hlast, splitOn_lines (by simpa using fun l hl => (h l hl).1)]
  simp only [beq_self_eq_true, if_true, List.dropLast_concat, List.map_map]
  conv_rhs => rw [← List.map_id lines]
  apply List.map_congr_left
  intro l hl
  have hcr : l.toList.getLast? ≠ some '\r' := fun hc => (h l hl).2 (List.mem_of_getLast? hc)
  simp [hcr]

/-! ### Samples by name -/

theorem mem_insertByName {e f : String × HealthSample} {acc : List (String × HealthSample)}
    (h : f ∈ insertByName e acc) : f = e ∨ f ∈ acc := by
  fun_induction insertByName e acc with
  | case1 => simpa using h
  | case2 g gs =>
    rcases List.mem_cons.1 h with h | h
    · exact Or.inl h
    · exact Or.inr (List.mem_cons_of_mem _ h)
  | case3 g gs => simpa using h
  | case4 g gs _ _ ih =>
    rcases List.mem_cons.1 h with rfl | h
    · exact Or.inr List.mem_cons_self
    · rcases ih h with h | h
      · exact Or.inl h
      · exact Or.inr (List.mem_cons_of_mem _ h)

theorem pairwise_insertByName {e : String × HealthSample} {acc : List (String × HealthSample)}
    (h : acc.Pairwise (·.1 < ·.1)) : (insertByName e acc).Pairwise (·.1 < ·.1) := by
  fun_induction insertByName e acc with
  | case1 => exact List.pairwise_singleton _ _
  | case2 f fs heq =>
    have hf : e.1 = f.1 := by simpa using heq
    obtain ⟨hlt, hfs⟩ := List.pairwise_cons.1 h
    exact List.pairwise_cons.2 ⟨fun g hg => hf ▸ hlt g hg, hfs⟩
  | case3 f fs _ hlt =>
    obtain ⟨hf, hfs⟩ := List.pairwise_cons.1 h
    refine List.pairwise_cons.2 ⟨?_, h⟩
    intro g hg
    rcases List.mem_cons.1 hg with rfl | hg
    · exact hlt
    · exact String.lt_trans hlt (hf g hg)
  | case4 f fs hne hnlt ih =>
    obtain ⟨hf, hfs⟩ := List.pairwise_cons.1 h
    have hfe : f.1 < e.1 := lt_of_le_of_ne (not_lt.1 hnlt) (fun h => hne (by simp [h]))
    refine List.pairwise_cons.2 ⟨?_, ih hfs⟩
    intro g hg
    rcases mem_insertByName hg with rfl | hg
    · exact hfe
    · exact hf g hg

theorem named?_insertByName (e : String × HealthSample) (acc : List (String × HealthSample))
    (n : String) : Selector.named? (insertByName e acc) n = Selector.named? (e :: acc) n := by
  fun_induction insertByName e acc with
  | case1 => rfl
  | case2 f fs heq =>
    have hf : e.1 = f.1 := by simpa using heq
    by_cases h : e.1 = n <;> simp_all [Selector.named?_cons]
  | case3 => rfl
  | case4 f fs hne _ ih =>
    have hf : e.1 ≠ f.1 := by simpa using hne
    rw [Selector.named?_cons, ih]
    by_cases h : e.1 = n <;> by_cases h' : f.1 = n <;> simp_all [Selector.named?_cons]

theorem named?_foldl_insertByName (l acc : List (String × HealthSample)) (n : String) :
    Selector.named? (l.foldl (fun acc e => insertByName e acc) acc) n =
      Selector.named? (l.reverse ++ acc) n := by
  induction l generalizing acc with
  | nil => rfl
  | cons e l ih =>
    rw [List.foldl_cons, ih, List.reverse_cons, List.append_assoc, Selector.named?_append,
      Selector.named?_append, named?_insertByName, List.singleton_append]

theorem insertByName_of_lt {e : String × HealthSample} {acc : List (String × HealthSample)}
    (h : ∀ f ∈ acc, f.1 < e.1) : insertByName e acc = acc ++ [e] := by
  fun_induction insertByName e acc with
  | case1 => rfl
  | case2 f fs heq =>
    have hf : e.1 = f.1 := by simpa using heq
    exact absurd (h f List.mem_cons_self) (hf ▸ String.lt_irrefl _)
  | case3 f fs _ hlt => exact absurd (h f List.mem_cons_self) (String.lt_asymm hlt)
  | case4 f fs _ _ ih => rw [ih fun g hg => h g (List.mem_cons_of_mem _ hg), List.cons_append]

theorem foldl_insertByName_of_pairwise {l acc : List (String × HealthSample)}
    (h : (acc ++ l).Pairwise (·.1 < ·.1)) :
    l.foldl (fun acc e => insertByName e acc) acc = acc ++ l := by
  induction l generalizing acc with
  | nil => simp
  | cons e l ih =>
    have hlt : ∀ f ∈ acc, f.1 < e.1 := fun f hf =>
      (List.pairwise_append.1 h).2.2 f hf e List.mem_cons_self
    rw [List.foldl_cons, insertByName_of_lt hlt, ih (by simpa using h)]
    simp

theorem mem_foldl_insertByName {l acc : List (String × HealthSample)} {e : String × HealthSample}
    (h : e ∈ l.foldl (fun acc e => insertByName e acc) acc) : e ∈ acc ∨ e ∈ l := by
  induction l generalizing acc with
  | nil => exact Or.inl h
  | cons f l ih =>
    rcases ih h with h | h
    · rcases mem_insertByName h with rfl | h
      · exact Or.inr List.mem_cons_self
      · exact Or.inl h
    · exact Or.inr (List.mem_cons_of_mem _ h)

theorem mem_sortByName {samples : List (String × HealthSample)} {e : String × HealthSample}
    (h : e ∈ sortByName samples) : e ∈ samples :=
  (mem_foldl_insertByName h).resolve_left List.not_mem_nil

theorem pairwise_sortByName (samples : List (String × HealthSample)) :
    (sortByName samples).Pairwise (·.1 < ·.1) := by
  suffices h : ∀ acc : List (String × HealthSample), acc.Pairwise (·.1 < ·.1) →
      (samples.foldl (fun acc e => insertByName e acc) acc).Pairwise (·.1 < ·.1) from
    h [] List.Pairwise.nil
  induction samples with
  | nil => exact fun _ h => h
  | cons e l ih => exact fun acc h => ih _ (pairwise_insertByName h)

theorem named?_sortByName (samples : List (String × HealthSample)) (n : String) :
    Selector.named? (sortByName samples) n = Selector.named? samples.reverse n := by
  rw [sortByName, named?_foldl_insertByName, List.append_nil]

/-! ### Reading a saved snapshot -/

theorem sortByName_of_pairwise {l : List (String × HealthSample)}
    (h : l.Pairwise (·.1 < ·.1)) : sortByName l = l :=
  foldl_insertByName_of_pairwise (by simpa using h)

theorem foldl_insertByName_map {l : List (String × HealthSample)} (g : HealthSample → HealthSample)
    (h : l.Pairwise (·.1 < ·.1)) :
    l.foldl (fun acc e => insertByName (e.1, g e.2) acc) [] = l.map fun e => (e.1, g e.2) := by
  have hsorted : (l.map fun e => (e.1, g e.2)).Pairwise
      (fun a b : String × HealthSample => a.1 < b.1) := List.pairwise_map.2 h
  have hmap := sortByName_of_pairwise hsorted
  rwa [sortByName, List.foldl_map] at hmap

theorem parseSnapshot_joinLines {lines : List String}
    (hends : ∀ l ∈ lines, '\n' ∉ l.toList ∧ '\r' ∉ l.toList)
    (hfit : ∀ l ∈ lines, l.utf8ByteSize < snapshotLineLimit) :
    parseSnapshot (String.join (lines.map (· ++ "\n"))) = .ok (lines.foldl readSampleLine []) := by
  have hshort : ((splitText '\n' (String.join (lines.map (· ++ "\n")))).any
      fun l => l.utf8ByteSize + 1 > snapshotLineLimit) = false := by
    rw [splitText_joinLines fun l hl => (hends l hl).1, List.any_eq_false]
    intro l hl
    rcases List.mem_append.1 hl with hl | hl
    · have := hfit l hl
      simp only [gt_iff_lt, decide_eq_true_eq]
      omega
    · rw [List.mem_singleton.1 hl]
      decide
  unfold parseSnapshot
  simp only [hshort, Bool.false_eq_true, if_false]
  by_cases hne : lines = []
  · -- the empty text is one empty line
    subst hne
    rfl
  · rw [textLines_joinLines hne hends]

theorem formatSnapshot_eq (samples : List (String × HealthSample)) :
    formatSnapshot samples =
      String.join (((sortByName samples).map fun e => formatSample e.1 e.2).map (· ++ "\n")) := by
  simp [formatSnapshot, List.map_map, Function.comp_def]

theorem parseSnapshot_formatSnapshot {samples : List (String × HealthSample)}
    (hnames : ∀ e ∈ samples, e.1 ≠ "")
    (hlatency : ∀ e ∈ samples, -2 ^ 63 ≤ e.2.latencyMs ∧ e.2.latencyMs < 2 ^ 63)
    (htime : ∀ e ∈ samples, -2 ^ 63 ≤ e.2.timestamp.unixMillis ∧ e.2.timestamp.unixMillis < 2 ^ 63)
    (hlines : ∀ e ∈ samples, (formatSample e.1 e.2).utf8ByteSize < snapshotLineLimit) :
    parseSnapshot (formatSnapshot samples) =
      .ok ((sortByName samples).map fun e => (e.1, e.2.reloaded)) := by
  have hmem : ∀ e ∈ sortByName samples, e ∈ samples := fun e he => mem_sortByName he
  have hends : ∀ l ∈ (sortByName samples).map (fun e => formatSample e.1 e.2),
      '\n' ∉ l.toList ∧ '\r' ∉ l.toList := by
    intro l hl
    obtain ⟨e, -, rfl⟩ := List.mem_map.1 hl
    exact ⟨fun h => (lineEnd_not_mem_formatSample _ _ _ h).1 rfl,
      fun h => (lineEnd_not_mem_formatSample _ _ _ h).2 rfl⟩
  have hfit : ∀ l ∈ (sortByName samples).map (fun e => formatSample e.1 e.2),
      l.utf8ByteSize < snapshotLineLimit := by
    intro l hl
    obtain ⟨e, he, rfl⟩ := List.mem_map.1 hl
    exact hlines e (hmem e he)
  calc parseSnapshot (formatSnapshot samples)
      = .ok (((sortByName samples).map fun e => formatSample e.1 e.2).foldl readSampleLine []) := by
        rw [formatSnapshot_eq, parseSnapshot_joinLines hends hfit]
    _ = .ok ((sortByName samples).foldl
          (fun acc e => insertByName (e.1, e.2.reloaded) acc) []) := by
        -- every line reads as its own sample
        rw [List.foldl_map]
        exact congrArg Except.ok (List.foldl_ext _ _ _ fun acc e he => readSampleLine_formatSample
          (hnames e (hmem e he)) (hlatency e (hmem e he)) (htime e (hmem e he)) acc)
    _ = .ok ((sortByName samples).map fun e => (e.1, e.2.reloaded)) := by
        rw [foldl_insertByName_map _ (pairwise_sortByName samples)]

/-- Saved samples read back: every name comes back once, in increasing order, with the last
sample saved under it, its success, latency, scores and error unchanged and its time as a
snapshot keeps it. -/
theorem saved_snapshot_reads_back (samples : List (String × HealthSample))
    (hnames : ∀ e ∈ samples, e.1 ≠ "")
    (hlatency : ∀ e ∈ samples, -2 ^ 63 ≤ e.2.latencyMs ∧ e.2.latencyMs < 2 ^ 63)
    (htime : ∀ e ∈ samples, -2 ^ 63 ≤ e.2.timestamp.unixMillis ∧ e.2.timestamp.unixMillis < 2 ^ 63)
    (hlines : ∀ e ∈ samples, (formatSample e.1 e.2).utf8ByteSize < snapshotLineLimit) :
    ∃ loaded, parseSnapshot (formatSnapshot samples) = .ok loaded ∧
      loaded.Pairwise (fun a b => a.1 < b.1) ∧
      ∀ name, Selector.named? loaded name =
        (Selector.named? samples.reverse name).map HealthSample.reloaded := by
  refine ⟨_, parseSnapshot_formatSnapshot hnames hlatency htime hlines, ?_, fun name => ?_⟩
  · rw [List.pairwise_map]
    exact pairwise_sortByName samples
  · rw [Selector.named?_map, named?_sortByName]

def epochSample : HealthSample :=
  { timestamp := Instant.ofUnixMillis 0, success := true, latencyMs := 5, connectivity := 1,
    successRate := 0.5, overallScore := 0.75 }

def escapedSample : HealthSample :=
  { timestamp := Instant.ofUnixMillis 1700000000123, latencyMs := 42, successRate := 0.25,
    overallScore := -0.0, error := "dial|%7C\r\nrefused" }

theorem escaped_names_read_back :
    ∃ loaded, parseSnapshot (formatSnapshot [("b|%25", escapedSample), ("a", epochSample)]) =
        .ok loaded ∧ loaded.Pairwise (fun a b => a.1 < b.1) ∧
      ∀ name, Selector.named? loaded name =
        (Selector.named? [("b|%25", escapedSample), ("a", epochSample)].reverse name).map
          HealthSample.reloaded :=
  saved_snapshot_reads_back _ (by decide) (by decide) (by decide) (by decide +kernel)

/-- A sample taken at the epoch itself comes back with the zero time. -/
theorem epoch_sample_reads_back_at_zero_time :
    ∃ loaded, parseSnapshot (formatSnapshot [("a", epochSample)]) = .ok loaded ∧
      (Selector.named? loaded "a").map (·.timestamp) = some Instant.zero ∧
      Instant.zero ≠ epochSample.timestamp := by
  refine ⟨_, parseSnapshot_formatSnapshot (by decide) (by decide) (by decide) (by decide +kernel),
    ?_, by decide⟩
  decide

end Pool
end ProxyRouter
