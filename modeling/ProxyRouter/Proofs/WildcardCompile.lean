import ProxyRouter.Routing.Wildcard
/-!
A routing wildcard's expression matches exactly what the wildcard says: `*` any run of characters
and `?` any one character, a line feed apart in both cases, and every other character itself up
to case (`WildcardMatch`). Quoting writes each character of the pattern as a unit of one or two
characters, and no occurrence of `\*` or `\?` straddles two units, so each replacement rewrites
whole units; the expression read back has one piece per character of the pattern.
-/
namespace ProxyRouter.Routing

/-- A wildcard pattern, read character by character, matches a text when its wildcards stand
for characters that satisfy `wild`: `*` for any run of them, `?` for any one of them, and every
other character for a character equal to it up to case. -/
inductive WildcardMatch (wild : Char → Prop) : List Char → List Char → Prop
  | nil : WildcardMatch wild [] []
  | run {p s w} : (∀ c ∈ w, wild c) → WildcardMatch wild p s →
      WildcardMatch wild ('*' :: p) (w ++ s)
  | one {p s c} : wild c → WildcardMatch wild p s → WildcardMatch wild ('?' :: p) (c :: s)
  | literal {p s d c} : d ≠ '*' → d ≠ '?' → Text.sameUpToCase d c = true →
      WildcardMatch wild p s → WildcardMatch wild (d :: p) (c :: s)

namespace WildcardMatch

variable {wild : Char → Prop} {p s : List Char}

theorem nil_iff : WildcardMatch wild [] s ↔ s = [] := by
  constructor
  · rintro ⟨⟩
    rfl
  · rintro rfl
    exact .nil

theorem star_iff :
    WildcardMatch wild ('*' :: p) s ↔
      ∃ w t, s = w ++ t ∧ (∀ c ∈ w, wild c) ∧ WildcardMatch wild p t := by
  constructor
  · rintro (⟨⟩ | ⟨hw, h⟩ | ⟨⟩ | ⟨hd⟩)
    · exact ⟨_, _, rfl, hw, h⟩
    · exact absurd rfl hd
  · rintro ⟨w, t, rfl, hw, h⟩
    exact .run hw h

theorem question_iff :
    WildcardMatch wild ('?' :: p) s ↔ ∃ c t, s = c :: t ∧ wild c ∧ WildcardMatch wild p t := by
  constructor
  · rintro (⟨⟩ | ⟨⟩ | ⟨hc, h⟩ | ⟨-, hq⟩)
    · exact ⟨_, _, rfl, hc, h⟩
    · exact absurd rfl hq
  · rintro ⟨c, t, rfl, hc, h⟩
    exact .one hc h

theorem literal_iff {d : Char} (hd : d ≠ '*') (hq : d ≠ '?') :
    WildcardMatch wild (d :: p) s ↔
      ∃ c t, s = c :: t ∧ Text.sameUpToCase d c = true ∧ WildcardMatch wild p t := by
  constructor
  · rintro (⟨⟩ | ⟨-, -⟩ | ⟨-, -⟩ | ⟨-, -, hc, h⟩)
    · exact absurd rfl hd
    · exact absurd rfl hq
    · exact ⟨_, _, rfl, hc, h⟩
  · rintro ⟨c, t, rfl, hc, h⟩
    exact .literal hd hq hc h

end WildcardMatch

theorem sameUpToCase_self (c : Char) : Text.sameUpToCase c c = true := by
  simp [Text.sameUpToCase]

/-! ### Replacing a pair of characters -/

section Replace

variable {a b x : Char} {new s : List Char}

theorem replacePair_of_ne (hx : x ≠ a) : replacePair a b new (x :: s) = x :: replacePair a b new s := by
  cases s with
  | nil => rfl
  | cons y t => simp [replacePair, hx]

theorem replacePair_pair : replacePair a b new (a :: b :: s) = new ++ replacePair a b new s := by
  simp [replacePair]

theorem replacePair_of_head (h : s.head? ≠ some b) :
    replacePair a b new (a :: s) = a :: replacePair a b new s := by
  cases s with
  | nil => rfl
  | cons y t =>
    have hy : y ≠ b := fun hy => h (by simp [hy])
    simp [replacePair, hy]

end Replace

/-! ### The units of a quoted pattern -/

def starUnit (c : Char) : List Char :=
  if c = '*' then ['.', '*'] else if metaChar c then ['\\', c] else [c]

def wildUnit (c : Char) : List Char :=
  if c = '*' then ['.', '*'] else if c = '?' then ['.'] else if metaChar c then ['\\', c] else [c]

theorem metaChar_backslash : metaChar '\\' = true := by decide

theorem metaChar_star : metaChar '*' = true := by decide

theorem metaChar_question : metaChar '?' = true := by decide

theorem metaChar_dot : metaChar '.' = true := by decide

theorem metaChar_dollar : metaChar '$' = true := by decide

theorem quoteMeta_cons (c : Char) (cs : List Char) :
    quoteMeta (c :: cs) = (if metaChar c then ['\\', c] else [c]) ++ quoteMeta cs := by
  simp [quoteMeta]

theorem quoteMeta_head {c : Char} (hc : metaChar c = true) (hb : c ≠ '\\') (cs : List Char) :
    (quoteMeta cs).head? ≠ some c := by
  cases cs with
  | nil => simp [quoteMeta]
  | cons d ds =>
    rw [quoteMeta_cons]
    by_cases hd : metaChar d = true
    · simp [hd, Ne.symm hb]
    · have hdc : d ≠ c := fun h => hd (h ▸ hc)
      simp [hd, hdc]

theorem starUnits_head (cs : List Char) : (cs.flatMap starUnit).head? ≠ some '?' := by
  cases cs with
  | nil => simp
  | cons d ds =>
    unfold starUnit
    by_cases hs : d = '*'
    · simp [hs]
    · by_cases hm : metaChar d = true
      · simp [hs, hm]
      · have hdq : d ≠ '?' := fun h => hm (h ▸ metaChar_question)
        simp [hs, hm, hdq]

theorem replace_star_quoteMeta (cs : List Char) :
    replacePair '\\' '*' ['.', '*'] (quoteMeta cs) = cs.flatMap starUnit := by
  induction cs with
  | nil => rfl
  | cons c cs ih =>
    rw [quoteMeta_cons, List.flatMap_cons]
    by_cases hs : c = '*'
    · subst hs
      rw [if_pos metaChar_star, List.cons_append, List.cons_append, List.nil_append,
        replacePair_pair, ih]
      rfl
    · by_cases hm : metaChar c = true
      · rw [if_pos hm, List.cons_append, List.cons_append, List.nil_append]
        simp only [replacePair, hs, and_false, if_false]
        -- the escaped character stays; a backslash is followed by the next unit, never by `*`
        by_cases hb : c = '\\'
        · subst hb
          rw [replacePair_of_head (quoteMeta_head metaChar_star (by decide) cs), ih]
          simp [starUnit, hs, hm]
        · rw [replacePair_of_ne hb, ih]
          simp [starUnit, hs, hm]
      · have hb : c ≠ '\\' := fun h => hm (h ▸ metaChar_backslash)
        rw [if_neg hm, List.cons_append, List.nil_append, replacePair_of_ne hb, ih]
        simp [starUnit, hs, hm]

theorem replace_question_starUnits (cs : List Char) :
    replacePair '\\' '?' ['.'] (cs.flatMap starUnit) = cs.flatMap wildUnit := by
  induction cs with
  | nil => rfl
  | cons c cs ih =>
    rw [List.flatMap_cons, List.flatMap_cons]
    by_cases hs : c = '*'
    · subst hs
      simp only [starUnit, wildUnit, if_true, List.cons_append, List.nil_append]
      rw [replacePair_of_ne (by decide), replacePair_of_ne (by decide), ih]
    · by_cases hq : c = '?'
      · subst hq
        simp only [starUnit, wildUnit, hs, if_false, if_true, metaChar_question, List.cons_append,
          List.nil_append]
        rw [replacePair_pair, ih]
        rfl
      · by_cases hm : metaChar c = true
        · simp only [starUnit, wildUnit, hs, hq, hm, if_false, if_true, List.cons_append,
            List.nil_append]
          simp only [replacePair, hq, and_false, if_false]
          by_cases hb : c = '\\'
          · subst hb
            rw [replacePair_of_head (starUnits_head cs), ih]
          · rw [replacePair_of_ne hb, ih]
        · have hb : c ≠ '\\' := fun h => hm (h ▸ metaChar_backslash)
          simp only [starUnit, wildUnit, hs, hq, hm, if_false, Bool.false_eq_true,
            List.cons_append, List.nil_append]
          rw [replacePair_of_ne hb, ih]

theorem routing_body (raw : String) :
    routingWildcards.foldl (fun s w => replacePair '\\' w.1 w.2 s) (quoteMeta raw.toList) =
      raw.toList.flatMap wildUnit := by
  simp only [routingWildcards, List.foldl_cons, List.foldl_nil]
  rw [replace_star_quoteMeta, replace_question_starUnits]

/-! ### Reading the expression back -/

def pieceOf (c : Char) : Piece :=
  if c = '*' then .star .any else if c = '?' then .one .any else .one (.char c)

theorem escapable_of_metaChar {c : Char} (h : metaChar c = true) : escapable c = true := by
  simp only [metaChar, List.contains_eq_mem, List.mem_cons, List.mem_nil_iff, or_false,
    decide_eq_true_eq] at h
  rcases h with rfl | rfl | rfl | rfl | rfl | rfl | rfl | rfl | rfl | rfl | rfl | rfl | rfl | rfl <;>
    decide

theorem readPieces_plain {c : Char} (hc : metaChar c = false) (pending : Option Atom)
    (s : List Char) :
    readPieces pending (c :: s) =
      (readPieces (some (.char c)) s).map (Piece.ofPending pending ++ ·) := by
  have hs : c ≠ '*' := fun h => by simp [h, metaChar_star] at hc
  have hb : c ≠ '\\' := fun h => by simp [h, metaChar_backslash] at hc
  have hd : c ≠ '.' := fun h => by simp [h, metaChar_dot] at hc
  have hdl : c ≠ '$' := fun h => by simp [h, metaChar_dollar] at hc
  rw [readPieces.eq_def]
  split <;> simp_all

theorem readPieces_wildUnits (cs : List Char) (pending : Option Atom) :
    readPieces pending (cs.flatMap wildUnit ++ ['$']) =
      .ok (Piece.ofPending pending ++ cs.map pieceOf) := by
  induction cs generalizing pending with
  | nil => simp [readPieces]
  | cons c cs ih =>
    rw [List.flatMap_cons, List.append_assoc]
    by_cases hs : c = '*'
    · subst hs
      simp [wildUnit, readPieces, ih, pieceOf, Piece.ofPending, Except.map]
    · by_cases hq : c = '?'
      · subst hq
        simp [wildUnit, readPieces, ih, pieceOf, Piece.ofPending, Except.map]
      · by_cases hm : metaChar c = true
        · simp [wildUnit, hs, hq, hm, readPieces, escapable_of_metaChar hm, ih, pieceOf,
            Piece.ofPending, Except.map]
        · simp only [wildUnit, hs, hq, hm, if_false, Bool.false_eq_true, List.cons_append,
            List.nil_append]
          rw [readPieces_plain (by simpa using hm), ih]
          simp [pieceOf, hs, hq, Piece.ofPending, Except.map]

theorem compileWildcard_routing (raw : String) :
    compileWildcard routingWildcards raw = .ok ⟨true, raw.toList.map pieceOf⟩ := by
  have hflag : "(?i)^".toList = ['(', '?', 'i', ')', '^'] := by decide
  simp only [compileWildcard, routing_body, hflag, List.cons_append, List.nil_append,
    Regexp.parse]
  rw [readPieces_wildUnits]
  rfl

/-! ### Matching -/

theorem matchPieces_star_iff (f : Bool) (a : Atom) (ps : List Piece) (s : List Char) :
    matchPieces f (.star a :: ps) s = true ↔
      ∃ w t, s = w ++ t ∧ (∀ c ∈ w, a.accepts f c = true) ∧ matchPieces f ps t = true := by
  induction s with
  | nil =>
    rw [matchPieces.eq_4]
    constructor
    · intro h
      exact ⟨[], [], rfl, by simp, h⟩
    · rintro ⟨w, t, hwt, -, h⟩
      obtain ⟨rfl, rfl⟩ := List.append_eq_nil_iff.mp hwt.symm
      exact h
  | cons c s ih =>
    rw [matchPieces.eq_5, Bool.or_eq_true, Bool.and_eq_true, ih]
    constructor
    · rintro (h | ⟨hc, w, t, rfl, hw, h⟩)
      · exact ⟨[], c :: s, rfl, by simp, h⟩
      · exact ⟨c :: w, t, rfl, by simpa [hc] using hw, h⟩
    · rintro ⟨w, t, hwt, hw, h⟩
      cases w with
      | nil => exact .inl (by simpa using hwt ▸ h)
      | cons d w =>
        obtain ⟨rfl, rfl⟩ := List.cons_eq_cons.mp hwt
        exact .inr ⟨hw _ List.mem_cons_self, w, t, rfl,
          fun c hc => hw c (List.mem_cons_of_mem _ hc), h⟩

theorem matchPieces_one_iff (f : Bool) (a : Atom) (ps : List Piece) (s : List Char) :
    matchPieces f (.one a :: ps) s = true ↔
      ∃ c t, s = c :: t ∧ a.accepts f c = true ∧ matchPieces f ps t = true := by
  cases s with
  | nil => simp [matchPieces.eq_2]
  | cons c t =>
    rw [matchPieces.eq_3, Bool.and_eq_true]
    constructor
    · rintro ⟨hc, h⟩
      exact ⟨c, t, rfl, hc, h⟩
    · rintro ⟨c', t', heq, hc, h⟩
      obtain ⟨rfl, rfl⟩ := List.cons_eq_cons.mp heq
      exact ⟨hc, h⟩

theorem matchPieces_pieceOf_iff (p s : List Char) :
    matchPieces true (p.map pieceOf) s = true ↔ WildcardMatch (· ≠ '\n') p s := by
  induction p generalizing s with
  | nil =>
    rw [List.map_nil, matchPieces.eq_1, WildcardMatch.nil_iff]
    simp
  | cons d p ih =>
    rw [List.map_cons]
    by_cases hstar : d = '*'
    · subst hstar
      rw [show pieceOf '*' = .star .any from rfl, matchPieces_star_iff, WildcardMatch.star_iff]
      simp only [ih, Atom.accepts, bne_iff_ne]
    · by_cases hq : d = '?'
      · subst hq
        rw [show pieceOf '?' = .one .any from rfl, matchPieces_one_iff,
          WildcardMatch.question_iff]
        simp only [ih, Atom.accepts, bne_iff_ne]
      · rw [show pieceOf d = .one (.char d) by simp [pieceOf, hstar, hq], matchPieces_one_iff,
          WildcardMatch.literal_iff hstar hq]
        simp only [ih, Atom.accepts, if_true]

/-- The expression of a routing pattern matches a text exactly when the pattern does, `*` and `?`
standing for a run of characters and one character other than a line feed, every other
character for one equal to it up to case. -/
theorem compileWildcard_routing_matches {raw : String} {re : Regexp}
    (h : compileWildcard routingWildcards raw = .ok re) (host : String) :
    re.matches host = true ↔ WildcardMatch (· ≠ '\n') raw.toList host.toList := by
  rw [compileWildcard_routing] at h
  obtain rfl := (Except.ok.inj h).symm
  exact matchPieces_pieceOf_iff raw.toList host.toList

end ProxyRouter.Routing
