/-
# What a test is asked

A scan asks its test about one byte after the other, and the test may change its mind from byte to
byte: each answer hands on a state.  Whatever it answers, the scan is a run of single steps
(`Cursor.eatWhileFrom_fst`), one for each byte that is accepted before the first refusal, and the
test has been asked about these bytes and the refused one, and about no other
(`Cursor.eatWhileFrom_snd`).

What is asked is made visible by a test that keeps a list of it in its state (`Cursor.noting`).  It
answers as the test it watches, so it is asked the same, and its list at the end is the bytes in
front of the cursor, each once and in order.

A test without a state accepts a run of bytes, and what is left of a run behind some of its bytes is
the rest of it (`Cursor.length_run_advanceBy`).  So a second scan with such a test finds nothing
more, and two scans with limits are one with the sum of the limits (`eatWhile_asks_in_order`).
-/
import MonkeyTokens.Proofs.Checked
import MonkeyTokens.Proofs.Reached

namespace MonkeyTokens

namespace Cursor

/-! ## 1. What is asked -/

section Asked

variable {σ : Type} (test : σ → UInt8 → Bool × σ)

/-- The state of a test that has been asked about some bytes, in order. -/
def stateBehind (s : σ) (asked : Bytes) : σ :=
  asked.foldl (fun s b => (test s b).2) s

/-- **A test is asked about what it accepts and one byte more.** At the end of the text there is
none, and then the last byte it accepts is the last one it is asked about. -/
theorem eatWhileFrom_snd (s : σ) (c : Cursor) :
    (c.eatWhileFrom test s).2 =
      stateBehind test s (c.ahead.take (accepted test s c.ahead + 1)) := by
  generalize hn : c.ahead = bytes
  induction bytes generalizing s c with
  | nil => rw [eatWhileFrom_of_nil hn]; rfl
  | cons b rest ih =>
    have hrest : c.advance.ahead = rest := by rw [ahead_advance, hn]; rfl
    rw [eatWhileFrom_of_cons hn, accepted, stateBehind]
    split
    · rw [ih _ _ hrest, List.take_succ_cons, List.foldl_cons, stateBehind]
    · rfl

/-- A test that also keeps the bytes it has been asked about. -/
def noting (test : σ → UInt8 → Bool × σ) : σ × Bytes → UInt8 → Bool × (σ × Bytes)
  | (s, asked), b => ((test s b).1, (test s b).2, asked ++ [b])

/-- Keeping them changes no answer. -/
theorem accepted_noting (bytes : Bytes) (s : σ) (asked : Bytes) :
    accepted (noting test) (s, asked) bytes = accepted test s bytes := by
  induction bytes generalizing s asked with
  | nil => rfl
  | cons b bytes ih => simp only [accepted, noting, ih]

theorem stateBehind_noting (bytes : Bytes) (s : σ) (asked : Bytes) :
    stateBehind (noting test) (s, asked) bytes = (stateBehind test s bytes, asked ++ bytes) := by
  induction bytes generalizing s asked with
  | nil => rw [List.append_nil]; rfl
  | cons b bytes ih =>
    rw [stateBehind, List.foldl_cons]
    refine (ih (test s b).2 (asked ++ [b])).trans ?_
    rw [List.append_assoc]
    rfl

/-- **A scan, its test and what the test is asked.** -/
theorem eatWhileFrom_noting (s : σ) (c : Cursor) :
    c.eatWhileFrom (noting test) (s, []) =
      ((c.eatWhileFrom test s).1, (c.eatWhileFrom test s).2,
        c.ahead.take (accepted test s c.ahead + 1)) := by
  refine Prod.ext ?_ ?_
  · rw [eatWhileFrom_fst, eatWhileFrom_fst, accepted_noting]
  · rw [eatWhileFrom_snd, eatWhileFrom_snd, accepted_noting, stateBehind_noting]
    rfl

end Asked

/-! ## 2. Tests without a state -/

variable {p : UInt8 → Bool}

/-- What is left of a run behind some of its bytes. -/
theorem length_takeWhile_drop : ∀ {bytes : Bytes} {n : Nat}, n ≤ (bytes.takeWhile p).length →
    ((bytes.drop n).takeWhile p).length = (bytes.takeWhile p).length - n
  | _, 0, _ => rfl
  | [], n + 1, h => absurd h (by simp)
  | b :: bytes, n + 1, h => by
    cases hb : p b with
    | false =>
      rw [List.takeWhile_cons_of_neg (by simp [hb])] at h
      exact absurd h (by simp)
    | true =>
      rw [List.takeWhile_cons_of_pos hb, List.length_cons] at h ⊢
      rw [List.drop_succ_cons, length_takeWhile_drop (Nat.le_of_succ_le_succ h)]
      omega

theorem length_run_advanceBy {n : Nat} {c : Cursor} (h : n ≤ (c.ahead.takeWhile p).length) :
    ((c.advanceBy n).ahead.takeWhile p).length = (c.ahead.takeWhile p).length - n := by
  rw [ahead_advanceBy, length_takeWhile_drop h]

/-- **What a class is scanned for is found at once.** -/
theorem eatWhile_eatWhile (p : UInt8 → Bool) (c : Cursor) :
    (c.eatWhile p).eatWhile p = c.eatWhile p := by
  rw [eatWhile_eq_advanceBy p (c.eatWhile p), eatWhile_eq_advanceBy p c,
    length_run_advanceBy (Nat.le_refl _), Nat.sub_self, advanceBy_zero]

/-- The test of a scan with a limit, whose state is what is left of the limit. -/
def atMost (p : UInt8 → Bool) : Nat → UInt8 → Bool × Nat
  | 0, _ => (false, 0)
  | left + 1, b => if p b then (true, left) else (false, left + 1)

theorem eatAtMost_eq (p : UInt8 → Bool) (limit : Nat) (c : Cursor) :
    c.eatAtMost p limit = (c.eatWhileFrom (atMost p) limit).1 := by
  unfold eatAtMost
  congr 2
  funext left b
  cases left <;> rfl

theorem accepted_atMost (bytes : Bytes) (limit : Nat) :
    accepted (atMost p) limit bytes = min limit (bytes.takeWhile p).length := by
  induction bytes generalizing limit with
  | nil => exact (Nat.min_zero limit).symm
  | cons b bytes ih =>
    cases limit with
    | zero => exact (Nat.zero_min _).symm
    | succ left =>
      cases hb : p b with
      | false => simp [accepted, atMost, hb]
      | true => simp [accepted, atMost, hb, ih, Nat.add_min_add_right]

/-- A scan with a limit passes the run, or as much of it as the limit allows. -/
theorem eatAtMost_eq_advanceBy (p : UInt8 → Bool) (limit : Nat) (c : Cursor) :
    c.eatAtMost p limit = c.advanceBy (min limit (c.ahead.takeWhile p).length) := by
  rw [eatAtMost_eq, eatWhileFrom_fst, accepted_atMost]

/-- **Limits add up.** -/
theorem eatAtMost_eatAtMost (p : UInt8 → Bool) (i j : Nat) (c : Cursor) :
    (c.eatAtMost p i).eatAtMost p j = c.eatAtMost p (i + j) := by
  have hrun := length_run_advanceBy (Nat.min_le_right i (c.ahead.takeWhile p).length)
  rw [eatAtMost_eq_advanceBy p j, eatAtMost_eq_advanceBy p i, eatAtMost_eq_advanceBy p (i + j),
    hrun, ← advanceBy_add]
  congr 1
  omega

end Cursor

/-- **What a scan passes and what it asks.** Wherever a cursor stands and whatever the test answers,
let `n` be the number of bytes ahead that the test accepts before it first refuses one or the text
ends.  The scan comes to the cursor of `n` single steps.  The test is asked about the first `n + 1`
bytes ahead, as far as there are so many, about each once and in order, and its state is what these
questions make of the one it began with.

A test without a state finds nothing more when it is used again, and limits on it add up. -/
theorem eatWhile_asks_in_order (c : Cursor) :
    (∀ {σ : Type} (test : σ → UInt8 → Bool × σ) (s : σ),
      let n := Cursor.accepted test s c.ahead
      let asked := c.ahead.take (min (n + 1) c.ahead.length)
      c.eatWhileFrom test s = (c.advanceBy n, Cursor.stateBehind test s asked) ∧
        c.eatWhileFrom (Cursor.noting test) (s, []) =
          (c.advanceBy n, Cursor.stateBehind test s asked, asked)) ∧
    (∀ p, (c.eatWhile p).eatWhile p = c.eatWhile p) ∧
    ∀ p i j, (c.eatAtMost p i).eatAtMost p j = c.eatAtMost p (i + j) := by
  refine ⟨?_, fun p => c.eatWhile_eatWhile p, fun p i j => c.eatAtMost_eatAtMost p i j⟩
  intro σ test s n asked
  have hasked : asked = c.ahead.take (n + 1) := List.take_eq_take_min.symm
  have hscan : c.eatWhileFrom test s = (c.advanceBy n, Cursor.stateBehind test s asked) := by
    rw [hasked]
    exact Prod.ext (Cursor.eatWhileFrom_fst test s c) (Cursor.eatWhileFrom_snd test s c)
  refine ⟨hscan, ?_⟩
  rw [Cursor.eatWhileFrom_noting, hscan, hasked]

/-- In `aab` a test that accepts the first byte only, whatever it is, is asked about two. -/
example : ((Cursor.ofSource [97, 97, 98]).eatWhileFrom
    (Cursor.noting fun fresh _ => (fresh, false)) (true, [])).2 = (false, [97, 97]) := by
  decide +kernel

end MonkeyTokens
