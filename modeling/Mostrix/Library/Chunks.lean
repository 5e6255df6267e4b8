import Mathlib.Data.List.Basic

/-!
# Reading a stream of chunks under a bound

A stream hands out chunks one by one, any of which may fail instead. `readChunks` collects them and
gives up at the first failure and as soon as more than a bound has come. `readChunks_ok_iff` says
when it succeeds and with what, `readChunks_take` that whatever has come so far, no more than the
bound is held, and `readChunks_of_tooLarge` that nothing more is looked at once the bound is
exceeded.
-/

namespace Chunks

variable {α ε : Type}

/-- Why a stream is given up. -/
inductive Fault (ε : Type) where
  | failed (e : ε)
  /-- more than the bound has come -/
  | tooLarge (total : Nat)
deriving DecidableEq

/-- Collect the chunks of a stream behind what was read before. -/
def readChunks (max : Nat) (body : List α) : List (Except ε (List α)) → Except (Fault ε) (List α)
  | [] => .ok body
  | .error e :: _ => .error (.failed e)
  | .ok chunk :: chunks =>
    if body.length + chunk.length > max then .error (.tooLarge (body.length + chunk.length))
    else readChunks max (body ++ chunk) chunks

variable {max : Nat} {body result : List α} {stream : List (Except ε (List α))}

/-- It succeeds on a stream without a failure that stays under the bound, with all of its chunks. -/
theorem readChunks_ok_iff (hbody : body.length ≤ max) :
    readChunks max body stream = .ok result ↔
      ∃ chunks : List (List α), stream = chunks.map .ok ∧ result = body ++ chunks.flatten ∧
        result.length ≤ max := by
  induction stream generalizing body with
  | nil =>
    constructor
    · intro h
      cases h
      exact ⟨[], rfl, by simp, hbody⟩
    · rintro ⟨chunks, hchunks, hresult, -⟩
      have : chunks = [] := by simpa using hchunks.symm
      subst this
      simp [readChunks, hresult]
  | cons turn stream ih =>
    cases turn with
    | error e =>
      refine iff_of_false nofun ?_
      rintro ⟨chunks, hchunks, -⟩
      cases chunks <;> cases hchunks
    | ok chunk =>
      unfold readChunks
      split
      next hlarge =>
        refine iff_of_false nofun ?_
        rintro ⟨chunks, hchunks, hresult, hmax⟩
        cases chunks with
        | nil => cases hchunks
        | cons c chunks =>
          cases hchunks
          simp only [hresult, List.flatten_cons, List.length_append] at hmax
          omega
      next hsmall =>
        rw [ih (by simpa using Nat.le_of_not_lt hsmall)]
        constructor
        · rintro ⟨chunks, rfl, hresult, hmax⟩
          exact ⟨chunk :: chunks, rfl, by simpa using hresult, hmax⟩
        · rintro ⟨chunks, hchunks, hresult, hmax⟩
          cases chunks with
          | nil => cases hchunks
          | cons c chunks =>
            cases hchunks
            exact ⟨chunks, rfl, by simpa using hresult, hmax⟩

/-- However much of the stream has come, no more than the bound is held. -/
theorem readChunks_take (hbody : body.length ≤ max) {n : Nat} {held : List α}
    (h : readChunks max body (stream.take n) = .ok held) : held.length ≤ max := by
  obtain ⟨-, -, -, hheld⟩ := (readChunks_ok_iff hbody).1 h
  exact hheld

/-- Behind the chunk that exceeds the bound, nothing is looked at. -/
theorem readChunks_of_tooLarge {chunks : List (List α)} {chunk : List α}
    (h : max < body.length + chunks.flatten.length + chunk.length)
    (rest rest' : List (Except ε (List α))) :
    readChunks max body (chunks.map .ok ++ .ok chunk :: rest) =
      readChunks max body (chunks.map .ok ++ .ok chunk :: rest') := by
  induction chunks generalizing body with
  | nil =>
    have hlarge : body.length + chunk.length > max := by simpa using h
    simp only [List.map_nil, List.nil_append, readChunks]
    rw [if_pos hlarge, if_pos hlarge]
  | cons c chunks ih =>
    simp only [List.map_cons, List.cons_append, readChunks]
    split
    · rfl
    · apply ih
      simp only [List.flatten_cons, List.length_append] at h ⊢
      omega

end Chunks
