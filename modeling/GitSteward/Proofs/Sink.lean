-- What a sink takes of what it is offered. It is offered the rest again until it has everything or
-- fails, and a sink that takes nothing of some bytes has failed.
import GitSteward.Stream.Sink
import Mathlib.Data.List.Basic

namespace GitSteward

/-- An answer to an offer of so many bytes: no more of them can be taken. -/
def SinkReply.atMost (offered : Nat) : SinkReply → SinkReply
  | .takes count => .takes (min count offered)
  | reply => reply

/-- What a sink takes of bytes that it is offered until it has them all, and the answers that are
left then or the error with which it fails. To take none of some bytes is to fail. -/
def takeAll : Bytes → List SinkReply → Bytes × Except SystemError (List SinkReply)
  | offered, [] => (offered, .ok [])
  | offered, .notReady :: rest => takeAll offered rest
  | _, .fails e :: _ => ([], .error e)
  | offered, .takes n :: rest =>
    if n = 0 then ([], .error (.bare .writeZero))
    else if n < offered.length then
      (offered.take n ++ (takeAll (offered.drop n) rest).1, (takeAll (offered.drop n) rest).2)
    else (offered, .ok rest)

/-- What a sink takes of pieces that it is offered one after the other, and the error with which
it fails, if it does. -/
def takePieces : List Bytes → List SinkReply → Bytes × Option SystemError
  | [], _ => ([], none)
  | piece :: more, answers =>
    match (takeAll piece answers).2 with
    | .error e => ((takeAll piece answers).1, some e)
    | .ok rest =>
      ((takeAll piece answers).1 ++ (takePieces more rest).1, (takePieces more rest).2)

variable {offered piece : Bytes} {pieces more : List Bytes} {answers rest : List SinkReply}

/-- A sink that does not fail has taken all that it was offered. -/
theorem takeAll_ok (h : (takeAll offered answers).2 = .ok rest) :
    (takeAll offered answers).1 = offered := by
  fun_induction takeAll offered answers with
  | case1 => rfl
  | case2 offered more ih => exact ih h
  | case3 | case4 => cases h
  | case5 offered n more h0 hlt ih => rw [ih h, List.take_append_drop]
  | case6 => rfl

/-- A sink that fails has taken a first part of what it was offered, and not all. -/
theorem takeAll_error {e : SystemError} (hne : offered ≠ [])
    (h : (takeAll offered answers).2 = .error e) :
    ∃ left, left ≠ [] ∧ offered = (takeAll offered answers).1 ++ left := by
  fun_induction takeAll offered answers with
  | case1 | case6 => cases h
  | case2 offered more ih => exact ih hne h
  | case3 offered | case4 offered => exact ⟨offered, hne, rfl⟩
  | case5 offered n more h0 hlt ih =>
    obtain ⟨left, hleft, hsplit⟩ := ih (by simpa using hlt) h
    refine ⟨left, hleft, ?_⟩
    rw [List.append_assoc, ← hsplit, List.take_append_drop]

theorem takePieces_none (h : (takePieces pieces answers).2 = none) :
    (takePieces pieces answers).1 = pieces.flatten := by
  induction pieces generalizing answers with
  | nil => rfl
  | cons piece more ih =>
    rw [takePieces] at h ⊢
    split at h
    · cases h
    · rename_i rest hrest
      dsimp only
      rw [List.flatten_cons, takeAll_ok hrest, ih h]

theorem takePieces_some {e : SystemError} (hne : ∀ piece ∈ pieces, piece ≠ [])
    (h : (takePieces pieces answers).2 = some e) :
    ∃ left, left ≠ [] ∧ pieces.flatten = (takePieces pieces answers).1 ++ left := by
  induction pieces generalizing answers with
  | nil => cases h
  | cons piece more ih =>
    obtain ⟨here, later⟩ := List.forall_mem_cons.mp hne
    rw [takePieces] at h ⊢
    split at h
    · rename_i e' herror
      obtain ⟨left, hleft, hsplit⟩ := takeAll_error here herror
      dsimp only
      refine ⟨left ++ more.flatten, by simp [hleft], ?_⟩
      rw [← List.append_assoc, ← hsplit, List.flatten_cons]
    · rename_i rest hrest
      obtain ⟨left, hleft, hsplit⟩ := ih later h
      dsimp only
      refine ⟨left, hleft, ?_⟩
      rw [List.flatten_cons, hsplit, takeAll_ok hrest, List.append_assoc]

-- The sink takes the first piece in two goes and is full after one byte of the second.
example : takePieces [[1, 2, 3], [4, 5], [6]] [.takes 2, .notReady, .takes 1, .takes 1, .takes 0] =
    ([1, 2, 3, 4], some (.bare .writeZero)) := by decide

theorem takePieces_some_taken {n : Nat} (h0 : 0 < n) (hlt : n < offered.length) :
    takePieces (offered :: pieces) (.takes n :: rest) =
      (offered.take n ++ (takePieces (offered.drop n :: pieces) rest).1,
        (takePieces (offered.drop n :: pieces) rest).2) := by
  have hsome : takeAll offered (.takes n :: rest) =
      (offered.take n ++ (takeAll (offered.drop n) rest).1, (takeAll (offered.drop n) rest).2) := by
    rw [takeAll, if_neg (Nat.ne_of_gt h0), if_pos hlt]
  rw [takePieces, takePieces, hsome]
  cases (takeAll (offered.drop n) rest).2 with
  | error e => rfl
  | ok left => simp only [List.append_assoc]

theorem takePieces_all_taken {n : Nat} (hne : offered ≠ []) (hle : offered.length ≤ n) :
    takePieces (offered :: pieces) (.takes n :: rest) =
      (offered ++ (takePieces pieces rest).1, (takePieces pieces rest).2) := by
  have h0 : n ≠ 0 := by
    rintro rfl
    exact hne (List.length_eq_zero_iff.mp (Nat.le_zero.mp hle))
  simp only [takePieces, takeAll, h0, if_false, Nat.not_lt.mpr hle]

/-- A sink that is said to take more than it is offered takes all of it. -/
theorem takePieces_atMost (hne : offered ≠ []) {reply : SinkReply} :
    takePieces (offered :: pieces) (reply.atMost offered.length :: rest) =
      takePieces (offered :: pieces) (reply :: rest) := by
  cases reply with
  | notReady | fails => rfl
  | takes n =>
    simp only [SinkReply.atMost]
    rcases Nat.lt_or_ge n offered.length with hlt | hle
    · rw [Nat.min_eq_left (Nat.le_of_lt hlt)]
    · rw [Nat.min_eq_right hle, takePieces_all_taken hne (Nat.le_refl _),
        takePieces_all_taken hne hle]

theorem takePieces_of_no_answer (hne : offered ≠ []) :
    takePieces (offered :: pieces) [] =
      takePieces (offered :: pieces) [.takes offered.length] := by
  rw [takePieces_all_taken hne (Nat.le_refl _)]
  rfl

end GitSteward
