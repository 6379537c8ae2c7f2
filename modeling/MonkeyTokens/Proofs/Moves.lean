/-
# Every move is a run of single steps

A cursor moves by `Cursor.advance` and in no other way: a scan over a run of bytes passes exactly the
bytes of the run (`Cursor.eatWhile_of_run`).  So what holds of `Cursor.advanceBy` holds of every
move, and it is said once here: which bytes are ahead afterwards, the offset, and the text passed.

A cursor that started before a text is therefore a function of the text and the offset,
`Cursor.atOffset`.  That includes its location: the counters that are carried from byte to byte are
the ones that `Location.lineAt` and `Location.columnAt` read off the text (`location_atOffset`), up
to the wrapping of 32-bit words.  A text of fewer than `UInt32.size - 1` bytes is too short for them
to wrap (`Location.line_ofOffset`, `Location.column_ofOffset`).
-/
import MonkeyTokens.Cursor

namespace MonkeyTokens

namespace Cursor

/-! ## 1. Single steps -/

@[simp] theorem advanceBy_zero (c : Cursor) : c.advanceBy 0 = c := rfl

theorem advanceBy_succ (n : Nat) (c : Cursor) : c.advanceBy (n + 1) = c.advance.advanceBy n := rfl

theorem advanceBy_add : ∀ (m n : Nat) (c : Cursor),
    c.advanceBy (m + n) = (c.advanceBy m).advanceBy n
  | 0, n, c => by rw [Nat.zero_add, advanceBy_zero]
  | m + 1, n, c => by
    rw [Nat.add_right_comm, advanceBy_succ, advanceBy_add m n c.advance, advanceBy_succ]

/-- The last step can be told apart as well as the first. -/
theorem advanceBy_succ_last (n : Nat) (c : Cursor) :
    c.advanceBy (n + 1) = (c.advanceBy n).advance := by
  rw [advanceBy_add n 1 c, advanceBy_succ, advanceBy_zero]

/-! ## 2. Many steps -/

theorem advanceBy_of_nil {c : Cursor} (h : c.ahead = []) : ∀ n, c.advanceBy n = c
  | 0 => rfl
  | n + 1 => by rw [advanceBy_succ, advance_nil h, advanceBy_of_nil h n]

@[simp] theorem ahead_advanceBy : ∀ (n : Nat) (c : Cursor),
    (c.advanceBy n).ahead = c.ahead.drop n
  | 0, c => by simp
  | n + 1, c => by
    rw [advanceBy_succ, ahead_advanceBy n c.advance, ahead_advance, List.drop_tail]

theorem position_advanceBy : ∀ (n : Nat) (c : Cursor),
    (c.advanceBy n).position = c.position + min n c.ahead.length
  | 0, c => by simp
  | n + 1, c => by
    cases h : c.ahead with
    | nil => rw [advanceBy_of_nil h]; simp
    | cons b rest =>
      have hrest : c.advance.ahead = rest := by rw [ahead_advance, h]; rfl
      rw [advanceBy_succ, position_advanceBy n c.advance, position_advance h, hrest,
        List.length_cons]
      omega

@[simp] theorem source_advanceBy : ∀ (n : Nat) (c : Cursor), (c.advanceBy n).source = c.source
  | 0, _ => rfl
  | n + 1, c => by rw [advanceBy_succ, source_advanceBy n c.advance, source_advance]

theorem position_le_length (c : Cursor) : c.position ≤ c.source.length :=
  Nat.le_trans c.consistent.position_le (Nat.le_of_eq Array.length_toList.symm)

/-- The text between an offset and a cursor behind it is a slice of the text. -/
theorem since_eq {c : Cursor} {start : Nat} (h : start ≤ c.position) :
    c.since start = (c.source.take c.position).drop start := by
  rw [Fields.since, Fields.since?_of_le h c.consistent.position_le, Option.getD_some]

/-- The text between a cursor and the one `n` bytes further on is those bytes. -/
theorem since_advanceBy (n : Nat) (c : Cursor) :
    (c.advanceBy n).since c.position = c.ahead.take n := by
  have hle : c.position ≤ (c.advanceBy n).position := by
    rw [position_advanceBy]
    exact Nat.le_add_right _ _
  rw [since_eq hle, source_advanceBy, position_advanceBy, List.drop_take, Nat.add_sub_cancel_left,
    ← Fields.ahead_eq, ← List.take_take, List.take_length]

/-- **A scan passes its run.**  The run is what the class accepts, and the byte behind it, if there
is one, is what the class refuses. -/
theorem eatWhile_of_run {p : UInt8 → Bool} : ∀ {run rest : Bytes} {c : Cursor},
    c.ahead = run ++ rest → (∀ b ∈ run, p b = true) → (∀ y ∈ rest.head?, p y = false) →
      c.eatWhile p = c.advanceBy run.length
  | [], rest, c, h, _, hrest => by
    cases hr : rest with
    | nil => exact eatWhile_of_nil (by rw [h, hr, List.append_nil])
    | cons y rest' =>
      have hcons : c.ahead = y :: rest' := by rw [h, hr]; rfl
      rw [eatWhile_of_cons hcons, hrest y (by rw [hr]; rfl)]
      rfl
  | b :: run, rest, c, h, hrun, hrest => by
    have hb : p b = true := hrun b List.mem_cons_self
    have hahead : c.advance.ahead = run ++ rest := by rw [ahead_advance, h]; rfl
    rw [eatWhile_of_cons h, hb, if_pos rfl,
      eatWhile_of_run hahead (fun y hy => hrun y (List.mem_cons_of_mem b hy)) hrest]
    rfl

end Cursor

/-! ## 3. Locations of offsets -/

namespace Location

variable {source : Bytes}

/-- The location of an offset, with counters of 32 bits. -/
def ofOffset (source : Bytes) (p : Nat) : Location :=
  ⟨UInt32.ofNat (lineAt source p), UInt32.ofNat (columnAt source p)⟩

theorem take_succ_reverse {p : Nat} {b : UInt8} (h : source[p]? = some b) :
    (source.take (p + 1)).reverse = b :: (source.take p).reverse := by
  rw [List.take_add_one, h]
  simp

theorem lineAt_succ {p : Nat} {b : UInt8} (h : source[p]? = some b) :
    lineAt source (p + 1) = lineAt source p + if b = Byte.lineFeed then 1 else 0 := by
  rw [lineAt, lineAt, List.take_add_one, h, List.count_append]
  split
  · rename_i hb
    simp [hb, Nat.add_assoc]
  · rename_i hb
    simp [hb]

theorem columnAt_succ {p : Nat} {b : UInt8} (h : source[p]? = some b) :
    columnAt source (p + 1) = if b = Byte.lineFeed then 1 else columnAt source p + 1 := by
  rw [columnAt, columnAt, take_succ_reverse h]
  split
  · rename_i hb
    simp [hb]
  · rename_i hb
    simp only [bne_iff_ne, ne_eq, hb, not_false_eq_true, List.takeWhile_cons_of_pos,
      List.length_cons]
    omega

/-- The location behind a byte is what passing the byte makes of the location before it. -/
theorem ofOffset_succ {p : Nat} {b : UInt8} (h : source[p]? = some b) :
    ofOffset source (p + 1) = (ofOffset source p).pass b := by
  unfold ofOffset pass
  rw [lineAt_succ h, columnAt_succ h]
  split
  · rw [UInt32.ofNat_add]; rfl
  · rw [Nat.add_zero, UInt32.ofNat_add]; rfl

theorem lineAt_le (p : Nat) : lineAt source p ≤ 1 + min p source.length := by
  have hcount := List.count_le_length (a := Byte.lineFeed) (l := source.take p)
  rw [List.length_take] at hcount
  unfold lineAt
  omega

theorem columnAt_le (p : Nat) : columnAt source p ≤ 1 + min p source.length := by
  have hrun := (List.takeWhile_sublist (· != Byte.lineFeed)
    (l := (source.take p).reverse)).length_le
  rw [List.length_reverse, List.length_take] at hrun
  unfold columnAt
  omega

/-- In a short text the line counter has not wrapped. -/
theorem line_ofOffset (h : source.length + 1 < UInt32.size) (p : Nat) :
    (ofOffset source p).line.toNat = lineAt source p := by
  have hle : lineAt source p ≤ 1 + min p source.length := lineAt_le p
  exact UInt32.toNat_ofNat_of_lt' (by omega)

theorem column_ofOffset (h : source.length + 1 < UInt32.size) (p : Nat) :
    (ofOffset source p).column.toNat = columnAt source p := by
  have hle : columnAt source p ≤ 1 + min p source.length := columnAt_le p
  exact UInt32.toNat_ofNat_of_lt' (by omega)

end Location

/-! ## 4. Cursors that started before a text -/

namespace Cursor

variable {source : Bytes}

/-- The cursor that has passed the first `p` bytes of a text. -/
def atOffset (source : Bytes) (p : Nat) : Cursor :=
  (ofSource source).advanceBy p

theorem atOffset_advanceBy (p n : Nat) :
    (atOffset source p).advanceBy n = atOffset source (p + n) :=
  (advanceBy_add p n _).symm

@[simp] theorem source_atOffset (p : Nat) : (atOffset source p).source = source :=
  source_advanceBy p (ofSource source)

theorem ahead_atOffset (p : Nat) : (atOffset source p).ahead = source.drop p := by
  rw [atOffset, ahead_advanceBy, ahead_ofSource]

theorem position_atOffset {p : Nat} (h : p ≤ source.length) : (atOffset source p).position = p := by
  rw [atOffset, position_advanceBy, ahead_ofSource]
  show 0 + min p source.length = p
  omega

/-- Behind the end there is no further offset. -/
theorem atOffset_min (p : Nat) : atOffset source p = atOffset source (min p source.length) := by
  rcases Nat.le_total p source.length with hle | hle
  · rw [Nat.min_eq_left hle]
  · obtain ⟨k, rfl⟩ : ∃ k, p = source.length + k := ⟨p - source.length, by omega⟩
    have hnil : (atOffset source source.length).ahead = [] := by
      rw [ahead_atOffset, List.drop_length]
    rw [Nat.min_eq_right hle, ← atOffset_advanceBy, advanceBy_of_nil hnil]

/-- **The location of a cursor is that of its offset.** -/
theorem location_atOffset : ∀ {p : Nat}, p ≤ source.length →
    (atOffset source p).location = .ofOffset source p
  | 0, _ => rfl
  | p + 1, h => by
    have hp : p < source.length := h
    have hget : source[p]? = some source[p] := List.getElem?_eq_getElem hp
    have hahead : (atOffset source p).ahead = source[p] :: source.drop (p + 1) := by
      rw [ahead_atOffset, List.drop_eq_getElem_cons hp]
    rw [Location.ofOffset_succ hget, ← location_atOffset (Nat.le_of_lt hp), atOffset,
      advanceBy_succ_last]
    exact location_advance hahead

end Cursor

end MonkeyTokens
