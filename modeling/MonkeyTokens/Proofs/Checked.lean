/-
# Scanning with checked operations

`Cursor.advance` counts lines and columns in words of 32 bits, and a token is cut out of the source at
two offsets.  Written with operations that wrap and that cut whatever they are given, this never
fails.  Here the same scan is written once more with operations that refuse: a counter at its largest
value, and a slice whose ends are not in order or not in the source.  `Lexer.callsChecked` makes a
number of calls of that kind, and ends with the first refusal and its reason (`Breach`).

A checked scan is the scan that wraps, as long as nothing is refused.  Both move by single steps, so a
checked run is as good as its steps (`Lexer.exists_calls_steps`); the slices are never refused,
because a token starts where its cursor started.  So only the counters matter: a source of fewer than
`UInt32.size - 1` bytes is too short for either to be at its end, and a source with one byte more, of
one line or of line feeds only, is not (`calls_within_bounds`).
-/
import Mathlib.Data.List.TakeWhile
import MonkeyTokens.Proofs.Lines
import MonkeyTokens.Proofs.Spans

namespace MonkeyTokens

/-! ## 1. The checked operations -/

/-- Why a checked operation refuses. -/
inductive Breach where
  /-- The line counter is at its largest value. -/
  | line
  /-- The column counter is at its largest value. -/
  | column
  /-- The ends of a slice are not in order, or not in the source. -/
  | slice
  deriving DecidableEq

/-- The breach of a byte that cannot be passed: a line feed counts lines, any other byte columns. -/
def Breach.ofByte (b : UInt8) : Breach :=
  if b = Byte.lineFeed then .line else .column

namespace Cursor

/-- `advance` with counters that do not wrap. -/
def advanceChecked (c : Cursor) : Except Breach Cursor :=
  match c.ahead with
  | [] => .ok c
  | b :: _ => if c.location.CanPass b then .ok c.advance else .error (.ofByte b)

theorem eq_advance_of_checked {c c' : Cursor} (h : c.advanceChecked = .ok c') : c' = c.advance := by
  unfold advanceChecked at h
  split at h
  · rename_i hnil
    rw [advance_nil hnil]
    exact (Except.ok.inj h).symm
  · split at h
    · exact (Except.ok.inj h).symm
    · exact absurd h (by simp)

/-- `eatWhile` by checked steps. -/
def eatWhileChecked (p : UInt8 → Bool) (c : Cursor) : Except Breach Cursor :=
  match _hahead : c.ahead with
  | [] => .ok c
  | b :: _ =>
    if p b then
      match _hstep : c.advanceChecked with
      | .ok c' => eatWhileChecked p c'
      | .error e => .error e
    else .ok c
termination_by c.ahead.length
decreasing_by
  rw [eq_advance_of_checked _hstep]
  simp [ahead_advance, _hahead]

/-- `since` for an offset that may be out of order, on a cursor that may be out of its source. -/
def sinceChecked (c : Cursor) (start : Nat) : Except Breach Bytes :=
  if start ≤ c.position ∧ c.position ≤ c.source.length then .ok (c.since start) else .error .slice

end Cursor

namespace Lexer

/-- `tokenEnd` by checked steps. -/
def tokenEndChecked (start : Cursor) (b : UInt8) : Except Breach Cursor :=
  if Byte.isLetter b then start.eatWhileChecked Byte.isLetter
  else if Byte.isDigit b then start.eatWhileChecked Byte.isDigit
  else start.advanceChecked

/-- `next` with checked operations. -/
def nextChecked (l : Lexer) : Except Breach (Token × Lexer) := do
  let start ← l.cursor.eatWhileChecked Byte.isBlank
  match start.current with
  | none => return (.eof, ⟨start, start.position, start.location⟩)
  | some b =>
    let stop ← tokenEndChecked start b
    let text ← stop.sinceChecked start.position
    return (⟨tokenKind b text, text⟩, ⟨stop, start.position, start.location⟩)

/-- The answers of `k` checked calls, and the lexer behind them. -/
def callsChecked : Nat → Lexer → Except Breach (List Token × Lexer)
  | 0, l => .ok ([], l)
  | k + 1, l => do
    let (tokens, l') ← callsChecked k l
    let (t, l'') ← l'.nextChecked
    return (tokens ++ [t], l'')

/-- The answers of `k` calls, and the lexer behind them. -/
def calls (k : Nat) (l : Lexer) : List Token × Lexer :=
  ((List.range k).map fun i => (l.after i).next.1, l.after k)

end Lexer

/-! ## 2. A checked move is as good as its steps -/

namespace Cursor

/-- As many checked steps. -/
def steps : Nat → Cursor → Except Breach Cursor
  | 0, c => .ok c
  | n + 1, c => c.advanceChecked >>= steps n

theorem steps_add : ∀ (m n : Nat) (c : Cursor), c.steps (m + n) = c.steps m >>= steps n
  | 0, n, c => by rw [Nat.zero_add]; rfl
  | m + 1, n, c => by
    rw [Nat.add_right_comm, steps, steps, bind_assoc]
    exact congrArg _ (funext fun c' => steps_add m n c')

/-- Steps that are not refused lead where unchecked ones lead. -/
theorem eq_advanceBy_of_steps : ∀ {n : Nat} {c c' : Cursor}, c.steps n = .ok c' →
    c' = c.advanceBy n
  | 0, c, c', h => (Except.ok.inj h).symm
  | n + 1, c, c', h => by
    rw [steps] at h
    cases hstep : c.advanceChecked with
    | error e =>
      rw [hstep] at h
      exact absurd h (by simp [bind, Except.bind])
    | ok c₁ =>
      rw [hstep] at h
      rw [eq_advanceBy_of_steps h, eq_advance_of_checked hstep, advanceBy_succ]

theorem eatWhileChecked_of_nil {p : UInt8 → Bool} {c : Cursor} (h : c.ahead = []) :
    c.eatWhileChecked p = .ok c := by
  rw [eatWhileChecked.eq_def]
  split
  · rfl
  · simp_all

theorem eatWhileChecked_of_cons {p : UInt8 → Bool} {c : Cursor} {b : UInt8} {rest : Bytes}
    (h : c.ahead = b :: rest) :
    c.eatWhileChecked p = if p b then c.advanceChecked >>= eatWhileChecked p else .ok c := by
  rw [eatWhileChecked.eq_def]
  split
  · simp_all
  · rename_i b' rest' h'
    obtain ⟨rfl, rfl⟩ : b = b' ∧ rest = rest' := by simpa [h] using h'
    split
    · split
      · rename_i hstep
        rw [hstep]
        rfl
      · rename_i hstep
        rw [hstep]
        rfl
    · rfl

/-- A scan passes the run in front of it. -/
theorem eatWhile_eq_advanceBy (p : UInt8 → Bool) (c : Cursor) :
    c.eatWhile p = c.advanceBy (c.ahead.takeWhile p).length :=
  eatWhile_of_run List.takeWhile_append_dropWhile.symm (List.all_eq_true.mp List.all_takeWhile)
    head?_dropWhile_eq_false

/-- **A checked scan is the checked steps over the same run.** -/
theorem eatWhileChecked_eq_steps (p : UInt8 → Bool) (c : Cursor) :
    c.eatWhileChecked p = c.steps (c.ahead.takeWhile p).length := by
  generalize hn : c.ahead = bytes
  induction bytes generalizing c with
  | nil => rw [eatWhileChecked_of_nil hn]; rfl
  | cons b rest ih =>
    rw [eatWhileChecked_of_cons hn]
    cases hp : p b with
    | false => rw [List.takeWhile_cons_of_neg (by simp [hp])]; rfl
    | true =>
      rw [List.takeWhile_cons_of_pos hp, List.length_cons, steps, if_pos rfl]
      cases hstep : c.advanceChecked with
      | error e => rfl
      | ok c' =>
        refine ih c' ?_
        rw [eq_advance_of_checked hstep, ahead_advance, hn]
        rfl

/-- A slice from where a cursor was to where it is by now is not refused. -/
theorem sinceChecked_advanceBy (n : Nat) (c : Cursor) :
    (c.advanceBy n).sinceChecked c.position = .ok ((c.advanceBy n).since c.position) := by
  have hle : c.position ≤ (c.advanceBy n).position := by
    rw [position_advanceBy]
    omega
  exact if_pos ⟨hle, position_le_length _⟩

end Cursor

namespace Lexer

/-- The end of a token is found by as many checked steps as unchecked ones. -/
theorem exists_tokenEnd_steps (start : Cursor) (b : UInt8) :
    ∃ n, tokenEnd start b = start.advanceBy n ∧ tokenEndChecked start b = start.steps n := by
  unfold tokenEnd tokenEndChecked
  split
  · exact ⟨_, start.eatWhile_eq_advanceBy _, start.eatWhileChecked_eq_steps _⟩
  · split
    · exact ⟨_, start.eatWhile_eq_advanceBy _, start.eatWhileChecked_eq_steps _⟩
    · refine ⟨1, rfl, ?_⟩
      rw [Cursor.steps]
      cases start.advanceChecked <;> rfl

/-- **A checked call is the call, unless a step is refused.** -/
theorem exists_next_steps (l : Lexer) :
    ∃ n, l.next.2.cursor = l.cursor.advanceBy n ∧
      l.nextChecked = (l.cursor.steps n).map fun _ => l.next := by
  have hskip : l.cursor.skipBlanks = l.cursor.advanceBy _ := l.cursor.eatWhile_eq_advanceBy _
  have hskip' := l.cursor.eatWhileChecked_eq_steps Byte.isBlank
  generalize (l.cursor.ahead.takeWhile Byte.isBlank).length = gap at hskip hskip'
  cases hcur : l.cursor.skipBlanks.current with
  | none =>
    refine ⟨gap, by rw [next_of_none hcur, hskip], ?_⟩
    rw [nextChecked, hskip', next_of_none hcur]
    cases hsteps : l.cursor.steps gap with
    | error e => rfl
    | ok start =>
      obtain rfl := (Cursor.eq_advanceBy_of_steps hsteps).trans hskip.symm
      simp only [bind, Except.bind, hcur]
      rfl
  | some b =>
    obtain ⟨length, hend, hend'⟩ := exists_tokenEnd_steps l.cursor.skipBlanks b
    refine ⟨gap + length, by rw [next_of_some hcur, Cursor.advanceBy_add, ← hskip, ← hend], ?_⟩
    rw [nextChecked, hskip', next_of_some hcur, Cursor.steps_add]
    cases hsteps : l.cursor.steps gap with
    | error e => rfl
    | ok start =>
      obtain rfl := (Cursor.eq_advanceBy_of_steps hsteps).trans hskip.symm
      simp only [bind, Except.bind, hcur, hend']
      cases hstop : l.cursor.skipBlanks.steps length with
      | error e => rfl
      | ok stop =>
        obtain rfl := Cursor.eq_advanceBy_of_steps hstop
        simp only [Cursor.sinceChecked_advanceBy, hend]
        rfl

/-- **Checked calls are the calls, unless a step is refused.** -/
theorem exists_calls_steps (l : Lexer) : ∀ k, ∃ n, (l.after k).cursor = l.cursor.advanceBy n ∧
    l.callsChecked k = (l.cursor.steps n).map fun _ => l.calls k
  | 0 => ⟨0, rfl, rfl⟩
  | k + 1 => by
    obtain ⟨m, hcursor, hcalls⟩ := exists_calls_steps l k
    obtain ⟨n, hcursor', hnext⟩ := exists_next_steps (l.after k)
    refine ⟨m + n, by rw [after_succ, hcursor', hcursor, Cursor.advanceBy_add], ?_⟩
    rw [callsChecked, hcalls, Cursor.steps_add]
    cases hsteps : l.cursor.steps m with
    | error e => rfl
    | ok c =>
      obtain rfl := (Cursor.eq_advanceBy_of_steps hsteps).trans hcursor.symm
      have hmore : l.calls (k + 1) =
          ((l.calls k).1 ++ [(l.after k).next.1], (l.after k).next.2) := by
        rw [calls, calls, List.range_succ, List.map_append]
        rfl
      simp only [bind, Except.bind, Except.map, calls, hnext] at hmore ⊢
      cases (l.after k).cursor.steps n with
      | error e => rfl
      | ok c' => exact congrArg Except.ok hmore.symm

end Lexer

/-! ## 3. Which steps are refused -/

namespace Location

variable {source : Bytes}

/-- Far enough from the largest value of a counter every byte can be passed. -/
theorem canPass_ofOffset {q : Nat} (h : q + 2 < UInt32.size) (b : UInt8) :
    (ofOffset source q).CanPass b := by
  have hline : lineAt source q ≤ 1 + min q source.length := lineAt_le q
  have hcolumn : columnAt source q ≤ 1 + min q source.length := columnAt_le q
  unfold CanPass ofOffset
  split
  · rw [UInt32.toNat_ofNat_of_lt' (by omega)]
    omega
  · rw [UInt32.toNat_ofNat_of_lt' (by omega)]
    omega

/-- A counter that has counted every byte before the last one is at its largest value there. -/
theorem not_canPass_ofOffset {q : Nat} {b : UInt8} (h : q + 2 = UInt32.size)
    (hcount : (if b = Byte.lineFeed then lineAt source q else columnAt source q) = q + 1) :
    ¬ (ofOffset source q).CanPass b := by
  unfold CanPass ofOffset
  split at hcount
  · rename_i hb
    rw [if_pos hb, hcount, UInt32.toNat_ofNat_of_lt' (by omega)]
    omega
  · rename_i hb
    rw [if_neg hb, hcount, UInt32.toNat_ofNat_of_lt' (by omega)]
    omega

/-- In a text of one line the column counts the bytes. -/
theorem columnAt_of_not_mem {q : Nat} (hq : q ≤ source.length) (h : Byte.lineFeed ∉ source) :
    columnAt source q = q + 1 := by
  have hall : ∀ b ∈ (source.take q).reverse, (b != Byte.lineFeed) = true := by
    intro b hb
    rw [bne_iff_ne]
    rintro rfl
    exact h (List.mem_of_mem_take (List.mem_reverse.mp hb))
  rw [columnAt, List.takeWhile_eq_self_iff.mpr hall, List.length_reverse, List.length_take]
  omega

/-- In a text of line feeds the line counts them. -/
theorem lineAt_of_forall {q : Nat} (hq : q ≤ source.length)
    (h : ∀ b ∈ source, b = Byte.lineFeed) : lineAt source q = q + 1 := by
  have hcount : (source.take q).count Byte.lineFeed = (source.take q).length :=
    List.count_eq_length.mpr fun b hb => (h b (List.mem_of_mem_take hb)).symm
  rw [lineAt, hcount, List.length_take]
  omega

end Location

namespace Cursor

variable {source : Bytes}

theorem steps_succ_last (n : Nat) (c : Cursor) :
    c.steps (n + 1) = c.steps n >>= advanceChecked := by
  have hone : steps 1 = advanceChecked := by
    funext c'
    rw [steps]
    cases c'.advanceChecked <;> rfl
  rw [steps_add n 1 c, hone]

/-- A step at an offset is refused by the location of the offset. -/
theorem advanceChecked_atOffset {q : Nat} {b : UInt8} (h : source[q]? = some b) :
    (atOffset source q).advanceChecked =
      if (Location.ofOffset source q).CanPass b then .ok (atOffset source (q + 1))
      else .error (.ofByte b) := by
  obtain ⟨hq, rfl⟩ := List.getElem?_eq_some_iff.mp h
  have hahead : (atOffset source q).ahead = source[q] :: source.drop (q + 1) := by
    rw [ahead_atOffset, List.drop_eq_getElem_cons hq]
  have hnext : (atOffset source q).advance = atOffset source (q + 1) :=
    (advanceBy_succ_last q (ofSource source)).symm
  rw [← location_atOffset (Nat.le_of_lt hq), ← hnext, advanceChecked]
  split
  · rename_i hnil
    rw [hnil] at hahead
    exact absurd hahead.symm (List.cons_ne_nil _ _)
  · rename_i b' _ hcons
    obtain ⟨rfl, -⟩ := List.cons.inj (hcons.symm.trans hahead)
    rfl

/-- Steps that the locations of their offsets allow are not refused. -/
theorem steps_of_canPass : ∀ {n : Nat},
    (∀ q < n, ∀ b ∈ source[q]?, (Location.ofOffset source q).CanPass b) →
      (ofSource source).steps n = .ok (atOffset source n)
  | 0, _ => rfl
  | n + 1, h => by
    rw [steps_succ_last, steps_of_canPass fun q hq => h q (Nat.lt_succ_of_lt hq)]
    show (atOffset source n).advanceChecked = _
    cases hb : source[n]? with
    | some b => rw [advanceChecked_atOffset hb, if_pos (h n (Nat.lt_succ_self n) b hb)]
    | none =>
      have hnil : (atOffset source n).ahead = [] := by
        rw [ahead_atOffset]
        exact List.drop_eq_nil_of_le (List.getElem?_eq_none_iff.mp hb)
      have hsame : atOffset source (n + 1) = atOffset source n := by
        rw [atOffset, advanceBy_succ_last]
        exact advance_nil hnil
      rw [advanceChecked, hnil, hsame]

/-- **The first step that is refused ends the run.** -/
theorem steps_of_not_canPass {q n : Nat} {b : UInt8}
    (hbefore : ∀ i < q, ∀ y ∈ source[i]?, (Location.ofOffset source i).CanPass y)
    (hb : source[q]? = some b) (hfull : ¬ (Location.ofOffset source q).CanPass b) (hn : q < n) :
    (ofSource source).steps n = .error (.ofByte b) := by
  obtain ⟨m, rfl⟩ : ∃ m, n = q + 1 + m := ⟨n - (q + 1), by omega⟩
  have hstep : (ofSource source).steps (q + 1) = .error (.ofByte b) := by
    rw [steps_succ_last, steps_of_canPass hbefore]
    show (atOffset source q).advanceChecked = _
    rw [advanceChecked_atOffset hb, if_neg hfull]
  rw [steps_add, hstep]
  rfl

end Cursor

/-! ## 4. Calls on short sources, and on those that are one byte too long -/

namespace Lexer

variable {source : Bytes}

/-- **On a short source nothing is refused.** -/
theorem callsChecked_of_short (h : source.length + 1 < UInt32.size) (k : Nat) :
    (ofSource source).callsChecked k = .ok ((ofSource source).calls k) := by
  obtain ⟨n, -, hcalls⟩ := (ofSource source).exists_calls_steps k
  have hsteps : (ofSource source).cursor.steps n = .ok (.atOffset source n) := by
    refine Cursor.steps_of_canPass fun q _ b hb => ?_
    obtain ⟨hq, -⟩ := List.getElem?_eq_some_iff.mp hb
    exact Location.canPass_ofOffset (by omega) b
  rw [hcalls, hsteps]
  rfl

/-- **At the last byte of a source that is one byte too long the counter is full**, if it has
counted every byte before. -/
theorem callsChecked_of_full {b : UInt8} (h : source.length + 1 = UInt32.size)
    (hb : source.getLast? = some b)
    (hcount : (if b = Byte.lineFeed then Location.lineAt source (source.length - 1)
      else Location.columnAt source (source.length - 1)) = source.length - 1 + 1) :
    (ofSource source).callsChecked (tokenize source).length = .error (.ofByte b) := by
  obtain ⟨n, hcursor, hcalls⟩ := (ofSource source).exists_calls_steps (tokenize source).length
  have hpos : 0 < source.length := List.length_pos_iff.mpr fun hnil => by simp [hnil] at hb
  -- the calls of the token list pass all bytes
  have hn : source.length ≤ n := by
    have hend := position_after_tokenize source
    rw [hcursor, Cursor.position_advanceBy, ahead_ofSource] at hend
    have hlen : 0 + min n source.length = source.length := hend
    omega
  have hsteps : (ofSource source).cursor.steps n = .error (.ofByte b) := by
    refine Cursor.steps_of_not_canPass (fun i hi y _ => ?_) (q := source.length - 1) ?_
      (Location.not_canPass_ofOffset (by omega) hcount) (by omega)
    · exact Location.canPass_ofOffset (by omega) y
    · rw [← List.getLast?_eq_getElem?, hb]
  rw [hcalls, hsteps]
  rfl

/-- A source that is one byte too long has a last byte. -/
theorem exists_getLast_of_full (h : source.length + 1 = UInt32.size) :
    ∃ b ∈ source, source.getLast? = some b := by
  have hne : source ≠ [] := by
    rintro rfl
    exact absurd h (by decide)
  exact ⟨source.getLast hne, List.getLast_mem hne, List.getLast?_eq_some_getLast hne⟩

/-- One line that is one byte too long. -/
theorem callsChecked_of_line (h : source.length + 1 = UInt32.size) (hmem : Byte.lineFeed ∉ source) :
    (ofSource source).callsChecked (tokenize source).length = .error .column := by
  obtain ⟨b, hb, hlast⟩ := exists_getLast_of_full h
  have hother : b ≠ Byte.lineFeed := by
    rintro rfl
    exact hmem hb
  have hbreach : Breach.ofByte b = .column := if_neg hother
  rw [← hbreach]
  refine callsChecked_of_full h hlast ?_
  rw [if_neg hother]
  exact Location.columnAt_of_not_mem (Nat.sub_le _ _) hmem

/-- As many line feeds. -/
theorem callsChecked_of_lineFeeds (h : source.length + 1 = UInt32.size)
    (hall : ∀ b ∈ source, b = Byte.lineFeed) :
    (ofSource source).callsChecked (tokenize source).length = .error .line := by
  obtain ⟨b, hb, hlast⟩ := exists_getLast_of_full h
  obtain rfl := hall b hb
  refine callsChecked_of_full h hlast ?_
  rw [if_pos rfl]
  exact Location.lineAt_of_forall (Nat.sub_le _ _) hall

end Lexer

/-- A line of an input is no longer than the input. -/
theorem length_le_of_mem_lines {input : Input} {line : Bytes} (h : line ∈ input.lines) :
    line.length ≤ input.bytes.length := by
  have hmem : line ∈ splitLines input.bytes := by
    unfold Input.lines at h
    split at h
    · exact h
    · exact List.mem_of_mem_filter h
  have hsub := (List.sublist_flatten_of_mem hmem).length_le
  rwa [flatten_splitLines] at hsub

/-- **Scanning never fails hard, up to an exact size.**  On a source of fewer than `UInt32.size - 1`
bytes no checked operation is refused: not by any number of calls on the source, of which those of its
token list are one, and not by any number of calls on a line of a session that reads it.  With one byte
more the calls of the token list meet a full counter: of columns if there is no line feed, of lines if
there is nothing else. -/
theorem calls_within_bounds :
    (∀ source : Bytes, source.length + 1 < UInt32.size →
      (∀ k, (Lexer.ofSource source).callsChecked k = .ok ((Lexer.ofSource source).calls k)) ∧
      ((Lexer.ofSource source).calls (tokenize source).length).1 = tokenize source ∧
      ∀ ending, ∀ line ∈ (Input.mk source ending).lines, ∀ k,
        (Lexer.ofSource line).callsChecked k = .ok ((Lexer.ofSource line).calls k)) ∧
    (∀ source : Bytes, source.length + 1 = UInt32.size → Byte.lineFeed ∉ source →
      (Lexer.ofSource source).callsChecked (tokenize source).length = .error .column) ∧
    (∀ source : Bytes, source.length + 1 = UInt32.size → (∀ b ∈ source, b = Byte.lineFeed) →
      (Lexer.ofSource source).callsChecked (tokenize source).length = .error .line) := by
  refine ⟨fun source hshort => ?_, fun _ => Lexer.callsChecked_of_line,
    fun _ => Lexer.callsChecked_of_lineFeeds⟩
  refine ⟨Lexer.callsChecked_of_short hshort, (tokenize_eq_calls source).symm, ?_⟩
  intro ending line hline k
  have hle : line.length ≤ source.length := length_le_of_mem_lines hline
  exact Lexer.callsChecked_of_short (by omega) k

/-- One word, and the two sources that are one byte too long: of one letter over and over, and of line
feeds. -/
theorem calls_within_bounds_word :
    (([108, 101, 116] : Bytes).length + 1 < UInt32.size ∧
      (Lexer.ofSource [108, 101, 116]).callsChecked 2 =
        .ok ((Lexer.ofSource [108, 101, 116]).calls 2) ∧
      ((Lexer.ofSource [108, 101, 116]).calls 2).1 = [⟨.keywordLet, [108, 101, 116]⟩, .eof]) ∧
    (let source : Bytes := List.replicate (UInt32.size - 1) 97
    source.length + 1 = UInt32.size ∧ Byte.lineFeed ∉ source ∧
      (Lexer.ofSource source).callsChecked (tokenize source).length = .error .column) ∧
    (let source : Bytes := List.replicate (UInt32.size - 1) Byte.lineFeed
    source.length + 1 = UInt32.size ∧ (∀ b ∈ source, b = Byte.lineFeed) ∧
      (Lexer.ofSource source).callsChecked (tokenize source).length = .error .line) := by
  have hsize : UInt32.size - 1 + 1 = UInt32.size := by decide
  have hlen : ∀ b : UInt8, (List.replicate (UInt32.size - 1) b).length + 1 = UInt32.size := by
    intro b
    rw [List.length_replicate, hsize]
  have hword : ([108, 101, 116] : Bytes).length + 1 < UInt32.size := by decide
  have hletter : Byte.lineFeed ∉ List.replicate (UInt32.size - 1) (97 : UInt8) := by
    intro h
    exact absurd (List.eq_of_mem_replicate h) (by decide)
  have hfeeds : ∀ b ∈ List.replicate (UInt32.size - 1) Byte.lineFeed, b = Byte.lineFeed :=
    fun b hb => List.eq_of_mem_replicate hb
  obtain ⟨hshort, hcolumns, hlines⟩ := calls_within_bounds
  exact ⟨⟨hword, (hshort _ hword).1 2, by decide +kernel⟩,
    ⟨hlen 97, hletter, hcolumns _ (hlen 97) hletter⟩,
    ⟨hlen Byte.lineFeed, hfeeds, hlines _ (hlen Byte.lineFeed) hfeeds⟩⟩

end MonkeyTokens
