import Mathlib.Logic.Relation
import Mathlib.Data.List.Basic

set_option autoImplicit false

/-! # A list queue with put-back

What a lossless queue is for: a consumer takes the first element, and either is done with it or gives
it back to the front. The value carries the proof that nothing was lost, duplicated or reordered, so an
implementation that refines `Step` cannot do any of this. -/

namespace Fifo

variable {α : Type*}

/-- A queue together with what became of the elements it accepted. -/
structure Queue (α : Type*) where
  /-- every element ever accepted, in order -/
  accepted : List α
  /-- the elements that have left for good, in order -/
  done : List α
  /-- the element that the consumer has taken -/
  hand : List α
  waiting : List α
  conserved : accepted = done ++ hand ++ waiting

namespace Queue

/-- A queue that starts with these elements. -/
def start (xs : List α) : Queue α := ⟨xs, [], [], xs, rfl⟩

/-- Accept an element. -/
def append (q : Queue α) (x : α) : Queue α where
  accepted := q.accepted ++ [x]
  done := q.done
  hand := q.hand
  waiting := q.waiting ++ [x]
  conserved := by rw [q.conserved, List.append_assoc]

/-- The first element is taken by the consumer. -/
def take (q : Queue α) (x : α) (rest : List α) (hhand : q.hand = [])
    (hwaiting : q.waiting = x :: rest) : Queue α where
  accepted := q.accepted
  done := q.done
  hand := [x]
  waiting := rest
  conserved := by simp [q.conserved, hhand, hwaiting]

/-- The consumer gives its element back. -/
def putBack (q : Queue α) : Queue α where
  accepted := q.accepted
  done := q.done
  hand := []
  waiting := q.hand ++ q.waiting
  conserved := by simp [q.conserved]

/-- The consumer is done with its element. -/
def finish (q : Queue α) : Queue α where
  accepted := q.accepted
  done := q.done ++ q.hand
  hand := []
  waiting := q.waiting
  conserved := by simp [q.conserved]

end Queue

/-- One step of the queue. -/
inductive Step : Queue α → Queue α → Prop where
  | append (q : Queue α) (x : α) : Step q (q.append x)
  | take (q : Queue α) (x : α) (rest : List α) (hhand : q.hand = [])
      (hwaiting : q.waiting = x :: rest) : Step q (q.take x rest hhand hwaiting)
  | putBack (q : Queue α) : Step q q.putBack
  | finish (q : Queue α) : Step q q.finish

/-- Any number of steps. -/
abbrev Steps : Queue α → Queue α → Prop := Relation.ReflTransGen Step

/-- Taking an element and being done with it at once. -/
theorem Steps.drop {q₀ q : Queue α} (h : Steps q₀ q) (x : α) (rest : List α) (hhand : q.hand = [])
    (hwaiting : q.waiting = x :: rest) : Steps q₀ (q.take x rest hhand hwaiting).finish :=
  (h.tail (.take q x rest hhand hwaiting)).tail (.finish _)

end Fifo
