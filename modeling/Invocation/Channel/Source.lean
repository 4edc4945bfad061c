import Invocation.Channel.Fault

/-!
# Draining the input channel

A source is what the host has in store for a reader, step by step.  Draining
reads until a call gives no bytes or fails; neither is an error, and nothing is
read after it.  A fault is remembered, since it is reported.
-/

namespace Invocation.Channel

/-- What the host has in store: bytes, of which each call gets at most `limit`,
a call without bytes, or a fault. -/
inductive Arrival where
  | data (bytes : List UInt8) (limit : Option Nat)
  | close
  | fault (f : Fault)
  deriving DecidableEq, Repr

/-- The steps of a source.  After the last one every call is without bytes. -/
abbrev Source := List Arrival

/-- The answer to one call. -/
inductive Reading where
  | bytes (bytes : List UInt8)
  | fault (f : Fault)
  deriving DecidableEq, Repr

namespace Source

/-- The default size of the buffer. -/
def defaultChunk : Nat := 64 * 1024

/-- The greatest size of the buffer. -/
def maxChunk : Nat := 16 * 1024 * 1024

/-- The size of the buffer for a configured size. -/
def bufferSize (chunk : UInt64) : Nat := max 1 (min chunk.toNat maxChunk)

/-- One call with room for `buffer` bytes.  A step without bytes gives no
answer; the call goes on to the next. -/
def read (buffer : Nat) : Source → Reading × Source
  | [] => (.bytes [], [])
  | .data [] _ :: rest => read buffer rest
  | .data (b :: bs) limit :: rest =>
    let n := (limit.map (min buffer)).getD buffer
    (.bytes ((b :: bs).take n),
      match (b :: bs).drop n with
      | [] => rest
      | left => .data left limit :: rest)
  | .close :: rest => (.bytes [], rest)
  | .fault f :: rest => (.fault f, rest)

/-- The bytes and steps still in store. -/
def pending : Source → Nat
  | [] => 0
  | .data bytes _ :: rest => bytes.length + 1 + pending rest
  | _ :: rest => 1 + pending rest

/-- A call that gives bytes leaves less in store. -/
theorem pending_read {buffer : Nat} {s rest : Source} {b : UInt8}
    {bs : List UInt8} (h : read buffer s = (.bytes (b :: bs), rest)) :
    pending rest < pending s := by
  fun_induction read buffer s with
  | case1 => simp at h
  | case2 limit rest' ih =>
      have := ih h
      simp only [pending]
      omega
  | case3 x xs limit rest' n =>
      simp only [Prod.mk.injEq, Reading.bytes.injEq] at h
      obtain ⟨taken, rfl⟩ := h
      have hn : 0 < n := by
        rcases Nat.eq_zero_or_pos n with h0 | h0
        · simp [h0] at taken
        · exact h0
      split
      · simp only [pending]
        omega
      · simp only [pending, List.length_drop, List.length_cons]
        omega
  | case4 => simp at h
  | case5 => simp at h

/-- What draining gave: the bytes, the number of calls, the fault that ended it
if one did, and what is left in store. -/
structure Drained where
  bytes : List UInt8
  calls : Nat
  fault : Option Fault
  rest : Source

/-- Drains a source; `got` holds the pieces read so far, the latest first. -/
def drainFrom (buffer : Nat) (got : List (List UInt8)) (calls : Nat)
    (s : Source) : Drained :=
  match h : read buffer s with
  | (.bytes [], rest) => ⟨got.reverse.flatten, calls + 1, none, rest⟩
  | (.fault f, rest) => ⟨got.reverse.flatten, calls + 1, some f, rest⟩
  | (.bytes (b :: bs), rest) =>
    drainFrom buffer ((b :: bs) :: got) (calls + 1) rest
termination_by pending s
decreasing_by exact pending_read h

/-- Reads until a call gives no bytes or fails. -/
def drain (buffer : Nat) (s : Source) : Drained := drainFrom buffer [] 0 s

end Source
end Invocation.Channel
