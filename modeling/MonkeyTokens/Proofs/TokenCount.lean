/-
# How many tokens a text has

The number of tokens can be told from neighbouring bytes alone.  Every byte that is not blank belongs
to one token, and it opens a new one unless it is joined to the byte in front of it; so there are as
many tokens as there are such bytes, less the places where two neighbours are joined (`joints`).

The count knows nothing of tokens, and has to agree with them all the same.  A token of `n` bytes has
`n - 1` joints inside (`Token.WellFormed.joints_text`), and none lies where two texts stand apart
(`joints_append_of_apart`), which is where tokens end.  The induction along the tokens of a text adds
the two up.

With the end token this is the number of calls that every loop over a lexer makes (`calls_to_end`).
-/
import Mathlib.Data.List.Basic
import MonkeyTokens.Proofs.FullSink
import MonkeyTokens.Proofs.Pulling

namespace MonkeyTokens

/-! ## 1. Joined neighbours -/

/-- The number of places in a text where two neighbouring bytes belong to one token. -/
def joints (s : Bytes) : Nat :=
  (s.zip s.tail).countP fun p => Byte.joins p.1 p.2

theorem joints_cons_cons (x y : UInt8) (s : Bytes) :
    joints (x :: y :: s) = joints (y :: s) + if Byte.joins x y then 1 else 0 :=
  List.countP_cons

/-- Between texts that stand apart there is no such place. -/
theorem joints_append_of_apart {a b : Bytes} (h : Apart a b) :
    joints (a ++ b) = joints a + joints b := by
  induction a with
  | nil => exact (Nat.zero_add _).symm
  | cons x a ih =>
    cases a with
    | nil =>
      cases b with
      | nil => rfl
      | cons y b =>
        have hapart : Byte.joins x y = false := h x rfl y rfl
        rw [List.singleton_append, joints_cons_cons, hapart, Nat.add_comm]
        rfl
    | cons y a =>
      have hrest : Apart (y :: a) b := Apart.of_append_left (a := [x]) h
      rw [List.cons_append, List.cons_append, joints_cons_cons, joints_cons_cons,
        ← List.cons_append, ih hrest]
      omega

theorem joints_of_blank {w : Bytes} (hw : Blank w) : joints w = 0 := by
  refine List.countP_eq_zero.mpr fun p hp => ?_
  have hblank : Byte.isBlank p.1 = true := hw p.1 (List.of_mem_zip hp).1
  simp [Byte.joins_of_blank_left hblank]

/-- In a run of letters or digits all neighbours are joined. -/
theorem joints_of_run {p : UInt8 → Bool} (hjoin : ∀ x y, p x = true → Byte.joins x y = p y)
    {run : Bytes} (hrun : ∀ b ∈ run, p b = true) : joints run = run.length - 1 := by
  have hall : joints run = (run.zip run.tail).length := by
    refine List.countP_eq_length.mpr fun q hq => ?_
    obtain ⟨hfst, hsnd⟩ := List.of_mem_zip hq
    rw [hjoin _ _ (hrun _ hfst)]
    exact hrun _ (List.mem_of_mem_tail hsnd)
  rw [hall, List.length_zip, List.length_tail, Nat.min_eq_right (Nat.sub_le _ _)]

/-- A token has one joint less than it has bytes. -/
theorem Token.WellFormed.joints_text {t : Token} (ht : t.WellFormed) :
    joints t.text + 1 = t.text.length := by
  have hpos : 0 < t.text.length := List.length_pos_iff.mpr ht.text_ne_nil
  have hrun : joints t.text = t.text.length - 1 := by
    rcases t.wellFormed_iff.mp ht with ⟨-, hall, -⟩ | ⟨-, hall, -⟩ | ⟨b, htext, -, -⟩
    · exact joints_of_run (fun x y hx => Byte.joins_of_letter hx y) hall
    · exact joints_of_run (fun x y hx => Byte.joins_of_digit hx y) hall
    · rw [htext]
      rfl
  omega

theorem joints_eq_zero_iff (s : Bytes) :
    joints s = 0 ↔ ∀ i (h : i + 1 < s.length), Byte.joins s[i] s[i + 1] = false := by
  have hchain : joints s = 0 ↔ s.IsChain fun x y => Byte.joins x y = false := by
    induction s with
    | nil => simp [joints]
    | cons x s ih =>
      cases s with
      | nil => simp [joints]
      | cons y s =>
        rw [joints_cons_cons, List.isChain_cons_cons, ← ih]
        cases Byte.joins x y <;> simp
  rw [hchain, List.isChain_iff_getElem]

/-! ## 2. The tokens of a text -/

theorem countP_not_blank_of_blank {w : Bytes} (hw : Blank w) :
    w.countP (!Byte.isBlank ·) = 0 :=
  List.countP_eq_zero.mpr fun b hb => by simp [hw b hb]

/-- **There are as many tokens as bytes that are not blank, less the joints between them.** -/
theorem length_tokens_add_joints (source : Bytes) :
    (tokens source).length + joints source = source.countP (!Byte.isBlank ·) := by
  induction source using spelled_induction with
  | blank w hw =>
    rw [tokens_of_blank hw, joints_of_blank hw, countP_not_blank_of_blank hw]
    rfl
  | token w t rest hw ht hr ih =>
    have hgap : Apart w (t.text ++ rest) :=
      apart_of_blank_last fun x hx => hw x (List.mem_of_getLast? hx)
    have htext : t.text.countP (!Byte.isBlank ·) = t.text.length :=
      List.countP_eq_length.mpr fun b hb => by simp [ht.not_blank b hb]
    rw [tokens_of_spelled hw ht hr, joints_append_of_apart hgap, joints_append_of_apart hr,
      joints_of_blank hw, List.countP_append, List.countP_append, countP_not_blank_of_blank hw,
      htext, ← ih, ← ht.joints_text, List.length_cons]
    omega

theorem length_tokenize (source : Bytes) :
    (tokenize source).length = (Lexer.ofSource source).rest.length + 1 := by
  rw [tokenize_eq_rest, List.length_append, List.length_singleton]

/-! ## 3. Calls -/

namespace Lexer

/-- A call answers the end exactly if it is behind as many calls as there are tokens. -/
theorem isEof_after_iff (l : Lexer) (k : Nat) :
    (l.after k).next.1.isEof = true ↔ l.rest.length ≤ k := by
  rw [← rest_eq_nil_iff, rest_after, List.drop_eq_nil_iff]

/-- ...and so does a call that answers nothing instead. -/
theorem next?_after_eq_none_iff (l : Lexer) (k : Nat) :
    (l.after k).next?.1 = none ↔ l.rest.length ≤ k := by
  rw [next?_eq, List.getElem?_eq_none_iff, Nat.le_zero, List.length_eq_zero_iff, rest_after,
    List.drop_eq_nil_iff]

end Lexer

/-- The lexer reports a token, which it does in every call but one that meets the end. -/
def Event.isToken : Event → Bool
  | .token .. => true
  | _ => false

theorem countP_isToken_reports {t : Token} (h : t.isEof = false) (location : Location) :
    (Lexer.reports t location).countP Event.isToken = 1 := by
  unfold Lexer.reports
  rw [h]
  cases t.isIllegal <;> rfl

/-- Draining reports every token that it yields. -/
theorem Lexer.countP_isToken_drain (l : Lexer) :
    (l.drain.1.flatMap (·.events)).countP Event.isToken = l.drain.1.length := by
  cases heof : l.next.1.isEof with
  | true => rw [drain_of_eof heof]; rfl
  | false =>
    have ih := l.next.2.countP_isToken_drain
    rw [drain_of_token heof, List.flatMap_cons, List.countP_append, ih, read_eq, events_placed,
      countP_isToken_reports heof, List.length_cons, Nat.add_comm]
termination_by l.cursor.ahead.length
decreasing_by exact next_length_lt heof

/-- A sink that fails makes a command report less, and nothing else. -/
theorem events_deliverSteps_sublist {α : Type} (fault : Fault) (result : Except Error α) :
    ∀ (steps : List Step) (room : Nat),
      (deliverSteps fault result room steps).events.Sublist (Step.events steps)
  | [], _ => .slnil
  | .report e :: steps, room => (events_deliverSteps_sublist fault result steps room).cons_cons e
  | .write part bytes :: steps, room => by
    rw [deliverSteps]
    split
    · exact events_deliverSteps_sublist fault result steps (room - bytes.length)
    · exact List.nil_sublist _

theorem Script.events_deliver_sublist {α : Type} (s : Script α) (sink : Sink) :
    (s.deliver sink).events.Sublist s.events := by
  unfold Script.deliver
  split
  · exact .refl _
  · exact events_deliverSteps_sublist _ _ _ _

/-- A dump reports fewer tokens than there are, as the end token is not reported. -/
theorem countP_isToken_events_dump_lt (format : Format) (denyIllegal : Bool) (source : Bytes) :
    (dump format denyIllegal source).events.countP Event.isToken < (tokenize source).length := by
  have hplaced : tokenEvents source = (Lexer.ofSource source).drain.1.flatMap (·.events) :=
    List.flatMap_append.trans (List.append_nil _)
  have hreported : (dump format denyIllegal source).events.countP Event.isToken =
      (tokenEvents source).countP Event.isToken := by
    rw [events_dump, List.countP_append]
    rfl
  rw [hreported, hplaced, Lexer.countP_isToken_drain, length_tokenize, Lexer.rest, List.length_map]
  omega

/-- **Every loop over a lexer makes one call more than there are tokens**, and the number of these is
told by neighbouring bytes: all bytes that are not blank, less the joints between them.  The answer of
that call is the first end token, and the first time that nothing is answered; draining ends behind
it; a dump counts that many tokens, and on whatever sink it reads fewer before the end.  So no loop
makes more calls than one for each byte and one for the end, and just as many only where no byte is
blank and no two neighbours are joined. -/
theorem calls_to_end (source : Bytes) :
    let first := Lexer.ofSource source
    let calls := (tokenize source).length
    calls + joints source = 1 + source.countP (!Byte.isBlank ·) ∧
      (∀ k, (first.after k).next.1.isEof = true ↔ calls ≤ k + 1) ∧
      (∀ k, (first.after k).next?.2 = first.after (k + 1) ∧
        ((first.after k).next?.1 = none ↔ calls ≤ k + 1)) ∧
      first.drain.2 = first.after calls ∧
      (∀ format denyIllegal, ∃ illegal,
        .tokenizedSource calls illegal ∈ (dump format denyIllegal source).events) ∧
      (∀ format denyIllegal sink,
        ((dump format denyIllegal source).deliver sink).events.countP Event.isToken < calls) ∧
      calls ≤ source.length + 1 ∧
      (calls = source.length + 1 ↔
        (∀ b ∈ source, Byte.isBlank b = false) ∧
          ∀ i (h : i + 1 < source.length), Byte.joins source[i] source[i + 1] = false) := by
  intro first calls
  have hcalls : calls = first.rest.length + 1 := length_tokenize source
  have hcount : calls + joints source = 1 + source.countP (!Byte.isBlank ·) := by
    have hrest : first.rest = tokens source := (tokens_eq_rest source).symm
    rw [hcalls, hrest, ← length_tokens_add_joints]
    omega
  have hle : source.countP (!Byte.isBlank ·) ≤ source.length := List.countP_le_length
  refine ⟨hcount, fun k => ?_, fun k => ?_, ?_, fun format denyIllegal => ?_,
    fun format denyIllegal sink => ?_, by omega, ?_⟩
  · rw [first.isEof_after_iff, hcalls, Nat.add_le_add_iff_right]
  · refine ⟨congrArg Prod.snd (first.after k).next?_eq, ?_⟩
    rw [first.next?_after_eq_none_iff, hcalls, Nat.add_le_add_iff_right]
  · rw [first.drain_snd, hcalls]
  · have hcalls' : calls = (Summary.ofTokens (placedTokens source)).tokens := List.length_map _
    refine ⟨(Summary.ofTokens (placedTokens source)).illegal, ?_⟩
    rw [events_dump, hcalls']
    exact List.mem_append_right _ (List.mem_singleton_self _)
  · exact Nat.lt_of_le_of_lt ((dump format denyIllegal source).events_deliver_sublist sink).countP_le
      (countP_isToken_events_dump_lt format denyIllegal source)
  · -- all bytes count, and no joint is taken off
    have hall : source.countP (!Byte.isBlank ·) = source.length ↔
        ∀ b ∈ source, Byte.isBlank b = false := by
      rw [List.countP_eq_length]
      simp
    rw [← hall, ← joints_eq_zero_iff]
    omega

end MonkeyTokens
