import Mathlib.Data.List.Basic
import ProxyRouter.Text.CaseMap
import ProxyRouter.Text.Blank
/-!
Lowercase as a normal form. The lowercase table sends a character either to itself or, through
the run it belongs to, to a partner that the table leaves alone: no partner is itself the member
of a run. Partners of characters beyond ASCII are beyond ASCII too, except `i` and `k` (the
partners of the dotted capital I and the Kelvin sign), and no partner is a blank, as no blank is
the member of a run. Hence lowercasing a lowercased text changes nothing, a character is blank
exactly when its lowercase partner is, and lowercasing commutes with trimming blanks.
-/
namespace ProxyRouter.Text

/-! ### What a lookup returns -/

namespace CaseRun

def Mem (r : CaseRun) (c : Nat) : Prop := r.lo ≤ c ∧ c ≤ r.hi ∧ (c - r.lo) % r.step = 0

def imageOf (r : CaseRun) (c : Nat) : Nat := ((c : Int) + r.delta).toNat

theorem image?_eq_some {r : CaseRun} {c d : Nat} (h : r.image? c = some d) :
    r.Mem c ∧ d = r.imageOf c := by
  unfold image? at h
  split at h
  · exact ⟨‹_›, (Option.some.inj h).symm⟩
  · cases h

theorem image?_of_not_mem {r : CaseRun} {c : Nat} (h : ¬ r.Mem c) : r.image? c = none := by
  unfold image?
  exact if_neg h

end CaseRun

theorem lastRunFrom_mem {runs : Array CaseRun} {c lo hi : Nat} {r : CaseRun}
    (h : lastRunFrom runs c lo hi = some r) : r ∈ runs.toList := by
  fun_induction lastRunFrom runs c lo hi with
  | case1 => rename_i ih; exact ih h
  | case2 => rename_i ih; exact ih h
  | case3 => cases h
  | case4 lo hi _ =>
    obtain ⟨hget?, -⟩ := Option.filter_eq_some_iff.mp h
    obtain ⟨hlt, hget⟩ := Array.getElem?_eq_some_iff.mp hget?
    rw [← hget]
    exact Array.getElem_mem_toList hlt

theorem mapByRuns_cases (runs : Array CaseRun) (c : Nat) :
    mapByRuns runs c = c ∨
      ∃ r ∈ runs.toList, r.Mem c ∧ mapByRuns runs c = r.imageOf c := by
  unfold mapByRuns
  split
  · rename_i d hd
    obtain ⟨r, hr, himage⟩ := Option.bind_eq_some_iff.mp hd
    obtain ⟨hmem, rfl⟩ := CaseRun.image?_eq_some himage
    exact .inr ⟨r, lastRunFrom_mem hr, hmem, rfl⟩
  · exact .inl rfl

theorem mapByRuns_of_not_mem {runs : Array CaseRun} {c : Nat}
    (h : ∀ r ∈ runs.toList, ¬ r.Mem c) : mapByRuns runs c = c := by
  rcases mapByRuns_cases runs c with hc | ⟨r, hr, hmem, -⟩
  · exact hc
  · exact absurd hmem (h r hr)

/-! ### The lowercase table, run by run -/

def blankCodes : List Nat :=
  [0x09, 0x0A, 0x0B, 0x0C, 0x0D, 0x20, 0x85, 0xA0, 0x1680, 0x2000, 0x2001, 0x2002, 0x2003,
   0x2004, 0x2005, 0x2006, 0x2007, 0x2008, 0x2009, 0x200A, 0x2028, 0x2029, 0x202F, 0x205F, 0x3000]

theorem isBlank_iff_mem (c : Char) : isBlank c = true ↔ c.toNat ∈ blankCodes := by
  unfold isBlank
  dsimp only
  split <;> simp [blankCodes] <;> omega

namespace CaseRun

def imageLo (r : CaseRun) : Nat := r.imageOf r.lo

def imageHi (r : CaseRun) : Nat := r.imageOf r.hi

/-- The shape of a run of the lowercase table: its points step by one or two and its images are
valid characters; its points and its images are no blanks; and beyond ASCII its images stay
beyond ASCII, but for a run of one point sent to `i` or `k`. -/
def WellShaped (r : CaseRun) : Bool :=
  (r.step == 1 || r.step == 2) && decide (r.lo ≤ r.hi) && decide (0 ≤ (r.lo : Int) + r.delta) &&
    (decide (r.imageHi < 0xD800) || decide (0xDFFF < r.imageLo) && decide (r.imageHi < 0x110000)) &&
    (decide (r.hi < 128) || decide (128 ≤ r.lo) && (decide (128 ≤ r.imageLo) ||
      r.lo == r.hi && (r.imageLo == 0x69 || r.imageLo == 0x6B))) &&
    blankCodes.all (fun b => decide (b < r.lo) || decide (r.hi < b)) &&
    blankCodes.all (fun b => decide (b < r.imageLo) || decide (r.imageHi < b))

/-- The images of the run miss the code points of every run of `qs`, an ascending list: a run
lies beyond the images, and so do all after it, or before them, or both it and the run step by
two (a run of one point counts as one) from points of unlike parity. -/
def imagesMiss (r : CaseRun) : List CaseRun → Bool
  | [] => true
  | q :: qs => decide (r.imageHi < q.lo) ||
      (decide (q.hi < r.imageLo) || q.step == 2 && (r.step == 2 || r.lo == r.hi) &&
        (r.imageLo + q.lo) % 2 == 1) && r.imagesMiss qs

end CaseRun

def ascendingRuns : List CaseRun → Bool
  | [] => true
  | [q] => decide (q.lo ≤ q.hi)
  | q :: q' :: qs => decide (q.lo ≤ q.hi) && decide (q.hi < q'.lo) && ascendingRuns (q' :: qs)

theorem ascendingRuns_cons {q : CaseRun} {qs : List CaseRun} (h : ascendingRuns (q :: qs) = true) :
    ascendingRuns qs = true ∧ q.lo ≤ q.hi ∧ ∀ s ∈ qs, q.hi < s.lo := by
  induction qs generalizing q with
  | nil => simpa [ascendingRuns] using h
  | cons q' qs ih =>
    simp only [ascendingRuns, Bool.and_eq_true, decide_eq_true_eq] at h
    obtain ⟨⟨hq, hlt⟩, hrest⟩ := h
    obtain ⟨-, hq', hafter⟩ := ih hrest
    refine ⟨hrest, hq, fun s hs => ?_⟩
    rcases List.mem_cons.mp hs with rfl | hs
    · exact hlt
    · have := hafter s hs
      omega

namespace CaseRun

/-- What `WellShaped` checks, as facts. -/
structure Shape (r : CaseRun) : Prop where
  step : r.step = 1 ∨ r.step = 2
  lo_le_hi : r.lo ≤ r.hi
  image_nonneg : 0 ≤ (r.lo : Int) + r.delta
  valid : r.imageHi < 0xD800 ∨ 0xDFFF < r.imageLo ∧ r.imageHi < 0x110000
  ascii : r.hi < 128 ∨
    128 ≤ r.lo ∧ (128 ≤ r.imageLo ∨ r.lo = r.hi ∧ (r.imageLo = 0x69 ∨ r.imageLo = 0x6B))
  members_not_blank : ∀ b ∈ blankCodes, b < r.lo ∨ r.hi < b
  images_not_blank : ∀ b ∈ blankCodes, b < r.imageLo ∨ r.imageHi < b

theorem shape_of_wellShaped {r : CaseRun} (h : r.WellShaped = true) : r.Shape := by
  simp only [WellShaped, Bool.and_eq_true, Bool.or_eq_true, decide_eq_true_eq, beq_iff_eq,
    List.all_eq_true] at h
  obtain ⟨⟨⟨⟨⟨⟨hstep, hle⟩, hnonneg⟩, hvalid⟩, hascii⟩, hmembers⟩, himages⟩ := h
  exact ⟨hstep, hle, hnonneg, hvalid, hascii, hmembers, himages⟩

variable {r : CaseRun} {c : Nat}

theorem Shape.imageOf_eq (hs : r.Shape) (hc : r.Mem c) : r.imageOf c = r.imageLo + (c - r.lo) := by
  have := hs.image_nonneg
  obtain ⟨h1, -, -⟩ := hc
  unfold imageOf imageLo imageOf
  omega

theorem Shape.imageOf_le (hs : r.Shape) (hc : r.Mem c) : r.imageOf c ≤ r.imageHi := by
  have := hs.image_nonneg
  obtain ⟨h1, h2, -⟩ := hc
  unfold imageOf imageHi imageOf
  omega

theorem imagesMiss_sound (hs : r.Shape) (hc : r.Mem c) {qs : List CaseRun}
    (hasc : ascendingRuns qs = true) (hm : r.imagesMiss qs = true) :
    ∀ q ∈ qs, ¬ q.Mem (r.imageOf c) := by
  have heq := hs.imageOf_eq hc
  have hle := hs.imageOf_le hc
  induction qs with
  | nil => simp
  | cons q qs ih =>
    obtain ⟨hasc', hq, hafter⟩ := ascendingRuns_cons hasc
    simp only [imagesMiss, Bool.or_eq_true, Bool.and_eq_true, decide_eq_true_eq, beq_iff_eq] at hm
    rcases hm with hbefore | ⟨hapart, hrest⟩
    · -- the images end before `q`, and so before every later run
      rintro q' hq' ⟨hlo, -, -⟩
      rcases List.mem_cons.mp hq' with rfl | hq'
      · omega
      · have := hafter q' hq'
        omega
    · intro q' hq'
      rcases List.mem_cons.mp hq' with rfl | hq'
      · rintro ⟨hlo, hhi, hmod⟩
        obtain ⟨hclo, hchi, hcmod⟩ := hc
        rcases hapart with hapart | ⟨⟨hstep, hone⟩, hpar⟩
        · omega
        · rw [hstep] at hmod
          rcases hone with hr2 | hsingle
          · rw [hr2] at hcmod
            omega
          · omega
      · exact ih hasc' hrest q' hq'

end CaseRun

theorem lowerRuns_wellShaped : lowerRuns.toList.all CaseRun.WellShaped = true := by
  decide +kernel

theorem lowerRuns_ascending : ascendingRuns lowerRuns.toList = true := by
  decide +kernel

theorem lowerRuns_imagesMiss :
    lowerRuns.toList.all (fun r => r.imagesMiss lowerRuns.toList) = true := by
  decide +kernel

/-! ### Where a character goes -/

/-- A code point the table returns beyond ASCII: a character that no run holds and no blank,
itself beyond ASCII unless it is `i` or `k`. -/
structure LowerImage (d : Nat) : Prop where
  valid : d.isValidChar
  fixed : ∀ r ∈ lowerRuns.toList, ¬ r.Mem d
  not_blank : d ∉ blankCodes
  ascii : 128 ≤ d ∨ d = 0x69 ∨ d = 0x6B

theorem lowerImage_of_mem {r : CaseRun} (hr : r ∈ lowerRuns.toList) {c : Nat} (hc : r.Mem c)
    (hbig : 128 ≤ c) : LowerImage (r.imageOf c) := by
  have hs := CaseRun.shape_of_wellShaped (List.all_eq_true.mp lowerRuns_wellShaped r hr)
  have hmiss := CaseRun.imagesMiss_sound hs hc lowerRuns_ascending
    (List.all_eq_true.mp lowerRuns_imagesMiss r hr)
  have heq := hs.imageOf_eq hc
  have hle := hs.imageOf_le hc
  obtain ⟨hlo, hhi, -⟩ := hc
  refine ⟨?_, hmiss, fun hb => ?_, ?_⟩
  · unfold Nat.isValidChar
    rcases hs.valid with h | h <;> omega
  · have := hs.images_not_blank _ hb
    omega
  · rcases hs.ascii with h | ⟨-, h | ⟨hsingle, h⟩⟩ <;> omega

namespace LowerImage

variable {d : Nat}

theorem toNat_ofNat (hd : LowerImage d) : (Char.ofNat d).toNat = d := by
  rw [Char.ofNat, dif_pos hd.valid]
  rfl

theorem isBlank_ofNat (hd : LowerImage d) : isBlank (Char.ofNat d) = false := by
  rw [Bool.eq_false_iff, ne_eq, isBlank_iff_mem, hd.toNat_ofNat]
  exact hd.not_blank

end LowerImage

theorem lowerChar_of_lt {c : Char} (h : c.toNat < 128) : lowerChar c = c.toLower := if_pos h

theorem lowerChar_cases {c : Char} (h : 128 ≤ c.toNat) :
    lowerChar c = c ∨ isBlank c = false ∧ ∃ d, LowerImage d ∧ lowerChar c = Char.ofNat d := by
  rw [lowerChar, if_neg (by omega)]
  rcases mapByRuns_cases lowerRuns c.toNat with hfix | ⟨r, hr, hmem, himg⟩
  · left
    rw [hfix, Char.ofNat_toNat]
  · right
    have hs := CaseRun.shape_of_wellShaped (List.all_eq_true.mp lowerRuns_wellShaped r hr)
    refine ⟨?_, _, lowerImage_of_mem hr hmem h, by rw [himg]⟩
    -- a member of a run is no blank
    rw [Bool.eq_false_iff, ne_eq, isBlank_iff_mem]
    intro hb
    have := hs.members_not_blank _ hb
    obtain ⟨hlo, hhi, -⟩ := hmem
    omega

theorem LowerImage.lowerChar_ofNat {d : Nat} (hd : LowerImage d) :
    lowerChar (Char.ofNat d) = Char.ofNat d := by
  rcases hd.ascii with hbig | rfl | rfl
  · rw [lowerChar, hd.toNat_ofNat, if_neg (by omega), mapByRuns_of_not_mem hd.fixed]
  · decide
  · decide

theorem ascii_of_forall {P : Char → Prop} (h : ∀ n < 128, P (Char.ofNat n)) {c : Char}
    (hc : c.toNat < 128) : P c := by
  simpa using h c.toNat hc

/-! ### Lowercase as a normal form -/

theorem lowerChar_lowerChar (c : Char) : lowerChar (lowerChar c) = lowerChar c := by
  by_cases h : c.toNat < 128
  · exact ascii_of_forall (P := fun c => lowerChar (lowerChar c) = lowerChar c) (by decide) h
  · rcases lowerChar_cases (c := c) (by omega) with hc | ⟨-, d, hd, hc⟩
    · rw [hc, hc]
    · rw [hc, hd.lowerChar_ofNat]

theorem isBlank_lowerChar (c : Char) : isBlank (lowerChar c) = isBlank c := by
  by_cases h : c.toNat < 128
  · exact ascii_of_forall (P := fun c => isBlank (lowerChar c) = isBlank c) (by decide) h
  · rcases lowerChar_cases (c := c) (by omega) with hc | ⟨hblank, d, hd, hc⟩
    · rw [hc]
    · rw [hc, hd.isBlank_ofNat, hblank]

theorem lowerChar_of_big {c : Char} (h : 128 ≤ c.toNat) :
    128 ≤ (lowerChar c).toNat ∨ lowerChar c = 'i' ∨ lowerChar c = 'k' := by
  rcases lowerChar_cases h with hc | ⟨-, d, hd, hc⟩
  · rw [hc]
    exact .inl h
  · rw [hc]
    rcases hd.ascii with hbig | rfl | rfl
    · rw [hd.toNat_ofNat]
      exact .inl hbig
    · exact .inr (.inl rfl)
    · exact .inr (.inr rfl)

theorem lowerChar_eq_iff {c m : Char} (hm : m.toNat < 128) (hnot : m.isAlpha = false) :
    lowerChar c = m ↔ c = m := by
  by_cases h : c.toNat < 128
  · -- in ASCII only letters change, and they stay letters
    have hsame := ascii_of_forall (P := fun c => c.toLower.isAlpha = c.isAlpha) (by decide) h
    have hfix := ascii_of_forall (P := fun c => c.isAlpha = false → c.toLower = c) (by decide) h
    rw [lowerChar_of_lt h]
    constructor
    · intro hc
      have hc' : c.isAlpha = false := by rw [← hsame, hc, hnot]
      rw [← hfix hc', hc]
    · rintro rfl
      exact hfix hnot
  · have hne : c ≠ m := fun hc => h (hc ▸ hm)
    simp only [hne, iff_false]
    rcases lowerChar_of_big (c := c) (by omega) with hbig | hi | hk
    · exact fun hc => by rw [hc] at hbig; omega
    · intro hc
      rw [hc] at hi
      rw [hi] at hnot
      exact absurd hnot (by decide)
    · intro hc
      rw [hc] at hk
      rw [hk] at hnot
      exact absurd hnot (by decide)

/-! ### Texts -/

theorem toList_lower (s : String) : (lower s).toList = s.toList.map lowerChar :=
  String.toList_map

theorem lower_lower (s : String) : lower (lower s) = lower s := by
  unfold lower
  rw [String.map_map]
  congr 1
  funext c
  exact lowerChar_lowerChar c

theorem lower_eq_empty {s : String} : lower s = "" ↔ s = "" := String.map_eq_empty

theorem isBlankText_lower (s : String) : isBlankText (lower s) = isBlankText s := by
  simp only [isBlankText, toList_lower, List.all_map, Function.comp_def, isBlank_lowerChar]

theorem trimBlank_lower (s : String) : trimBlank (lower s) = lower (trimBlank s) := by
  have hblank : isBlank ∘ lowerChar = isBlank := funext isBlank_lowerChar
  apply String.toList_injective
  simp only [trimBlank, trimBlankChars, toList_lower, String.toList_ofList, List.dropWhile_map,
    hblank, ← List.map_reverse]

theorem mem_lower_iff {s : String} {m : Char} (hm : m.toNat < 128) (hnot : m.isAlpha = false) :
    m ∈ (lower s).toList ↔ m ∈ s.toList := by
  simp only [toList_lower, List.mem_map, lowerChar_eq_iff hm hnot, exists_eq_right]

end ProxyRouter.Text
