import Bindery.Source.Position
import Mathlib.Data.List.TakeWhile
import Mathlib.Data.Prod.Lex

/-!
# Positions and the bytes of a source

The listed line starts are the places behind the bytes that are line feeds, and every offset lies on
one line only. So a position counts the line feeds before an offset, an offset can be computed back
from its position, and positions are in the order of the offsets.
-/

namespace Bindery

namespace Text

/-- The bytes of the UTF-8 form. -/
def bytes (t : Text) : List UInt8 := t.flatMap String.utf8EncodeChar

theorem length_bytes (t : Text) : (bytes t).length = byteSize t := by
  induction t with
  | nil => rfl
  | cons c t ih => simp [bytes, ← ih]

end Text

/-- The byte that ends a line. -/
def lineFeed : UInt8 := 10

/-! ## Line feeds among bytes -/

/-- No byte of a character but the line feed is a line feed. -/
theorem lineFeed_mem_utf8EncodeChar_iff {c : Char} :
    lineFeed ∈ String.utf8EncodeChar c ↔ c = '\n' := by
  have hcode : ∀ n : Nat, lineFeed = UInt8.ofNat n ↔ n % 256 = 10 := by
    intro n
    rw [← UInt8.toNat_inj, UInt8.toNat_ofNat', eq_comm]
    rfl
  have hvalue : c = '\n' ↔ c.val.toNat = 10 := Char.toNat_inj.symm
  rw [hvalue, String.utf8EncodeChar]
  -- All bytes of a character that needs several are large.
  split_ifs <;> simp only [List.mem_cons, List.not_mem_nil, or_false, hcode] <;> omega

/-- The offsets behind the line feeds among bytes that begin at `offset`. -/
def startsAmong (offset : Nat) : List UInt8 → List Nat
  | [] => []
  | b :: bs =>
    if b = lineFeed then (offset + 1) :: startsAmong (offset + 1) bs else startsAmong (offset + 1) bs

section Bytes

variable {bs : List UInt8} {offset : Nat}

theorem startsAmong_append_of_not_mem {lead : List UInt8} (h : lineFeed ∉ lead) :
    startsAmong offset (lead ++ bs) = startsAmong (offset + lead.length) bs := by
  induction lead generalizing offset with
  | nil => rfl
  | cons b lead ih =>
    have hb : b ≠ lineFeed := fun he => h (he ▸ List.mem_cons_self)
    rw [List.cons_append, startsAmong, if_neg hb, ih fun hmem => h (List.mem_cons_of_mem b hmem),
      List.length_cons]
    congr 1
    omega

/-- A start is the place behind a line feed. -/
theorem mem_startsAmong_iff {start : Nat} :
    start ∈ startsAmong offset bs ↔ ∃ i, bs[i]? = some lineFeed ∧ start = offset + i + 1 := by
  induction bs generalizing offset with
  | nil => simp [startsAmong]
  | cons b bs ih =>
    -- The byte at the front is set apart from those behind it.
    rw [← Nat.or_exists_add_one]
    have hbehind : start ∈ startsAmong (offset + 1) bs ↔
        ∃ i, (b :: bs)[i + 1]? = some lineFeed ∧ start = offset + (i + 1) + 1 := by
      simp only [ih, List.getElem?_cons_succ, Nat.add_assoc, Nat.add_comm 1]
    rw [← hbehind]
    by_cases hb : b = lineFeed <;> simp [startsAmong, hb]

/-- The starts are in ascending order. -/
theorem pairwise_startsAmong : (startsAmong offset bs).Pairwise (· < ·) := by
  induction bs generalizing offset with
  | nil => exact .nil
  | cons b bs ih =>
    rw [startsAmong]
    split
    · refine List.pairwise_cons.mpr ⟨?_, ih⟩
      intro start hstart
      obtain ⟨i, -, rfl⟩ := mem_startsAmong_iff.mp hstart
      omega
    · exact ih

/-- As many lines start at or before an offset as there are line feeds before it. -/
theorem length_takeWhile_startsAmong (n : Nat) :
    ((startsAmong offset bs).takeWhile (· ≤ offset + n)).length = (bs.take n).count lineFeed := by
  induction bs generalizing offset n with
  | nil => simp [startsAmong]
  | cons b bs ih =>
    cases n with
    | zero =>
      have hbeyond : ∀ start ∈ (startsAmong offset (b :: bs)).head?, ¬ start ≤ offset := by
        intro start hstart
        obtain ⟨i, -, rfl⟩ := mem_startsAmong_iff.mp (List.mem_of_mem_head? hstart)
        omega
      cases hstarts : startsAmong offset (b :: bs) with
      | nil => rfl
      | cons start starts =>
        have hstart := hbeyond start (hstarts ▸ rfl)
        simp [hstart]
    | succ n =>
      have hn : offset + (n + 1) = offset + 1 + n := by omega
      by_cases hb : b = lineFeed
      · simp [startsAmong, hb, hn, ih]
      · simp [startsAmong, hb, hn, ih]

end Bytes

/-- The line starts of a source are the places behind its line feeds. -/
theorem lineStartsFrom_eq (offset : Nat) (t : Text) :
    lineStartsFrom offset t = startsAmong offset (Text.bytes t) := by
  induction t generalizing offset with
  | nil => rfl
  | cons c t ih =>
    rw [Text.bytes, List.flatMap_cons]
    by_cases hc : c = '\n'
    · subst hc
      simp only [lineStartsFrom, if_pos, ih]
      rfl
    · rw [startsAmong_append_of_not_mem (mt lineFeed_mem_utf8EncodeChar_iff.mp hc),
        String.length_utf8EncodeChar]
      simp [lineStartsFrom, hc, ih, Text.bytes]

theorem lineStarts_eq (source : Text) : lineStarts source = startsAmong 0 (Text.bytes source) :=
  lineStartsFrom_eq 0 source

/-! ## The table of lines -/

/-- The offsets at which the lines of a source begin, with that of the first line. -/
def lineTable (source : Text) : List Nat := 0 :: lineStarts source

/-- Where the line of an offset begins: at the front or behind a line feed, without a line feed from
there up to the offset. -/
structure BeginsLine (bs : List UInt8) (offset start : Nat) : Prop where
  /-- The line begins at the offset or before it. -/
  start_le : start ≤ offset
  /-- The line begins at the front or behind a line feed. -/
  behind : start = 0 ∨ ∃ i, bs[i]? = some lineFeed ∧ start = i + 1
  /-- The line has not ended before the offset. -/
  within : ∀ i, start ≤ i → i < offset → bs[i]? ≠ some lineFeed

theorem pairwise_lineTable (source : Text) : (lineTable source).Pairwise (· < ·) := by
  refine List.pairwise_cons.mpr ⟨?_, lineStarts_eq source ▸ pairwise_startsAmong⟩
  intro start hstart
  rw [lineStarts_eq] at hstart
  obtain ⟨i, -, rfl⟩ := mem_startsAmong_iff.mp hstart
  omega

theorem le_byteSize_of_mem_lineTable {source : Text} {start : Nat} (h : start ∈ lineTable source) :
    start ≤ Text.byteSize source := by
  rcases List.mem_cons.mp h with rfl | h
  · exact Nat.zero_le _
  · rw [lineStarts_eq] at h
    obtain ⟨i, hi, rfl⟩ := mem_startsAmong_iff.mp h
    have hlt := (List.getElem?_eq_some_iff.mp hi).1
    rw [Text.length_bytes] at hlt
    omega

/-- In an ascending list the entries up to a bound are those at the front. -/
theorem lt_length_takeWhile_iff {starts : List Nat} (h : starts.Pairwise (· < ·)) {i start : Nat}
    (hi : starts[i]? = some start) (offset : Nat) :
    i < (starts.takeWhile (· ≤ offset)).length ↔ start ≤ offset := by
  induction starts generalizing i with
  | nil => simp at hi
  | cons first starts ih =>
    obtain ⟨hfirst, hstarts⟩ := List.pairwise_cons.mp h
    by_cases hle : first ≤ offset
    · cases i with
      | zero => simp_all
      | succ i => simpa [hle] using ih hstarts hi
    · have hbeyond : first ≤ start := by
        rcases List.mem_cons.mp (List.mem_of_getElem? hi) with rfl | hmem
        · exact le_rfl
        · exact (hfirst start hmem).le
      simp only [List.takeWhile_cons, decide_eq_true_eq, if_neg hle, List.length_nil, Nat.not_lt_zero,
        false_iff]
      omega

/-- What stands behind the entries that are passed is the entry with their number. -/
theorem getElem?_cons_length_takeWhile (p : Nat → Bool) (first : Nat) (starts : List Nat) :
    (first :: starts)[(starts.takeWhile p).length]? =
      some ((starts.takeWhile p).getLast?.getD first) := by
  induction starts generalizing first with
  | nil => rfl
  | cons next starts ih =>
    by_cases hnext : p next = true
    · simp [hnext, ih, List.getLast?_cons]
    · simp [hnext]

namespace Position

/-- Where the line begins on which an offset lies. -/
def lineStart (source : Text) (offset : Nat) : Nat :=
  ((lineStarts source).takeWhile (· ≤ offset)).getLast?.getD 0

section Lookup

variable {source : Text} {offset : Nat}

theorem line_ofOffset (source : Text) (offset : Nat) :
    (ofOffset source offset).line = ((Text.bytes source).take offset).count lineFeed := by
  have hlength : ((lineStarts source).takeWhile (· ≤ 0 + offset)).length =
      ((Text.bytes source).take offset).count lineFeed := by
    rw [lineStarts_eq]
    exact length_takeWhile_startsAmong offset
  rw [Nat.zero_add] at hlength
  exact hlength

/-- The line of an offset stands in the table under its number. -/
theorem getElem?_lineTable (source : Text) (offset : Nat) :
    (lineTable source)[(ofOffset source offset).line]? = some (lineStart source offset) :=
  getElem?_cons_length_takeWhile (fun start => decide (start ≤ offset)) 0 (lineStarts source)

/-- The lines up to that of an offset are those that begin at or before it. -/
theorem le_line_iff {i start : Nat} (h : (lineTable source)[i]? = some start) :
    i ≤ (ofOffset source offset).line ↔ start ≤ offset := by
  cases i with
  | zero =>
    cases h
    exact iff_of_true (Nat.zero_le _) (Nat.zero_le _)
  | succ i =>
    have hstarts := (List.pairwise_cons.mp (pairwise_lineTable source)).2
    exact lt_length_takeWhile_iff hstarts h offset

theorem lineStart_le (source : Text) (offset : Nat) : lineStart source offset ≤ offset :=
  (le_line_iff (getElem?_lineTable source offset)).mp le_rfl

theorem lineStart_add_column (source : Text) (offset : Nat) :
    lineStart source offset + (ofOffset source offset).column = offset :=
  Nat.add_sub_of_le (lineStart_le source offset)

theorem beginsLine_lineStart (source : Text) (offset : Nat) :
    BeginsLine (Text.bytes source) offset (lineStart source offset) := by
  have hmem := List.mem_of_getElem? (getElem?_lineTable source offset)
  refine ⟨lineStart_le source offset, ?_, ?_⟩
  · rcases List.mem_cons.mp hmem with hzero | hmem
    · exact Or.inl hzero
    · rw [lineStarts_eq, mem_startsAmong_iff] at hmem
      simpa using Or.inr hmem
  · -- A line feed in between would begin a later line in the table.
    intro i hstart hoffset hfeed
    have hlater : i + 1 ∈ lineStarts source := by
      rw [lineStarts_eq, mem_startsAmong_iff]
      exact ⟨i, hfeed, by omega⟩
    obtain ⟨j, hj⟩ := List.mem_iff_getElem?.mp (List.mem_cons_of_mem 0 hlater)
    have hline : j ≤ (ofOffset source offset).line := (le_line_iff hj).mpr hoffset
    have hbefore : (ofOffset source offset).line ≤ (ofOffset source i).line :=
      (le_line_iff (getElem?_lineTable source offset)).mpr hstart
    have hbehind : ¬ j ≤ (ofOffset source i).line := by
      rw [le_line_iff hj]
      exact Nat.not_succ_le_self i
    omega

/-- Positions are in the order of the offsets, by line and then by column. -/
theorem strictMono_ofOffset (source : Text) : StrictMono fun offset =>
    toLex ((ofOffset source offset).line, (ofOffset source offset).column) := by
  intro first second hlt
  rw [Prod.Lex.toLex_lt_toLex]
  dsimp only
  have hline : (ofOffset source first).line ≤ (ofOffset source second).line := by
    rw [line_ofOffset, line_ofOffset]
    exact (List.take_sublist_take_left hlt.le).count_le lineFeed
  rcases hline.lt_or_eq with hline | hline
  · exact Or.inl hline
  · refine Or.inr ⟨hline, ?_⟩
    have hfirst := getElem?_lineTable source first
    rw [hline, getElem?_lineTable source second, Option.some.injEq] at hfirst
    have hsum := lineStart_add_column source first
    have hsum' := lineStart_add_column source second
    omega

/-- Behind the end of the source every offset lies on the last line. -/
theorem line_add_one_of_byteSize_le (h : Text.byteSize source ≤ offset) :
    (ofOffset source offset).line + 1 = (lineTable source).length := by
  have hline : (ofOffset source offset).line < (lineTable source).length :=
    (List.getElem?_eq_some_iff.mp (getElem?_lineTable source offset)).1
  have hlast : (lineTable source).length - 1 < (lineTable source).length := by omega
  have hentry := List.getElem?_eq_getElem hlast
  have hle := (le_byteSize_of_mem_lineTable (List.getElem_mem hlast)).trans h
  rw [← le_line_iff hentry] at hle
  omega

end Lookup

/-- A position tells the line feeds before an offset and the bytes since the last of them, behind the
end of the source as well. It is what a search in the table of lines finds, whose entries are no
larger than the source. No two offsets have the same position, and positions are in the order of the
offsets. -/
theorem ofOffset_exact (source : Text) :
    (∀ offset, ∃ start, BeginsLine (Text.bytes source) offset start ∧
      ofOffset source offset =
        ⟨((Text.bytes source).take offset).count lineFeed, offset - start⟩ ∧
      start + (ofOffset source offset).column = offset ∧
      (lineTable source)[(ofOffset source offset).line]? = some start ∧
      ∀ i entry, (lineTable source)[i]? = some entry →
        (i ≤ (ofOffset source offset).line ↔ entry ≤ offset)) ∧
    (∀ offset, Text.byteSize source ≤ offset →
      (ofOffset source offset).line + 1 = (lineTable source).length) ∧
    (∀ start ∈ lineTable source, start ≤ Text.byteSize source) ∧
    Function.Injective (ofOffset source) ∧
    StrictMono fun offset =>
      toLex ((ofOffset source offset).line, (ofOffset source offset).column) := by
  refine ⟨fun offset => ⟨lineStart source offset, beginsLine_lineStart source offset, ?_,
    lineStart_add_column source offset, getElem?_lineTable source offset,
    fun i entry hentry => le_line_iff hentry⟩, fun offset => line_add_one_of_byteSize_le,
    fun start => le_byteSize_of_mem_lineTable, ?_, strictMono_ofOffset source⟩
  · rw [← line_ofOffset]
    rfl
  · intro first second heq
    apply (strictMono_ofOffset source).injective
    simp only [heq]

end Position

end Bindery
