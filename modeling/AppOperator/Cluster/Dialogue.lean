import AppOperator.Cluster.Server

/-!
# Dialogues with a cluster

A dialogue is what the operator does to a cluster, call by call: it has come
to an answer, or it makes a call and goes on by the reply. Each call is a
single step for the cluster, and others may write between two of them. A
dialogue can be followed to its end (`Dialogue.on`), or one step at a time.
-/

namespace AppOperator

/-- **A dialogue with a cluster.** -/
inductive Dialogue (α : Type) where
  /-- It is over and came to this. -/
  | done (a : α)
  /-- It makes a call and goes on by the reply or the refusal. -/
  | call (c : Call) (next : Except Refusal c.Reply → Dialogue α)

namespace Dialogue

variable {α β : Type}

/-- One dialogue and then another. -/
def andThen (next : α → Dialogue β) : Dialogue α → Dialogue β
  | .done a => next a
  | .call c rest => .call c fun reply => andThen next (rest reply)

instance : Monad Dialogue where
  pure := .done
  bind first next := first.andThen next

/-- A single call. -/
def ask (c : Call) : Dialogue (Except Refusal c.Reply) := .call c .done

/-- **A dialogue without interruption**: what it comes to and the cluster that
it leaves. -/
def on : Dialogue α → Server → α × Server
  | .done a, s => (a, s)
  | .call c next, s => (next (s.perform c).1).on (s.perform c).2

theorem pure_eq (a : α) : (pure a : Dialogue α) = .done a := rfl

theorem bind_eq (first : Dialogue α) (next : α → Dialogue β) :
    first >>= next = first.andThen next := rfl

theorem andThen_done (first : Dialogue α) : first.andThen .done = first := by
  induction first with
  | done a => rfl
  | call c rest ih => simp [andThen, ih]

theorem andThen_andThen {γ : Type} (first : Dialogue α) (next : α → Dialogue β)
    (last : β → Dialogue γ) :
    (first.andThen next).andThen last = first.andThen fun a => (next a).andThen last := by
  induction first with
  | done a => rfl
  | call c rest ih => simp [andThen, ih]

instance : LawfulMonad Dialogue :=
  LawfulMonad.mk' Dialogue andThen_done (fun _ _ => rfl) andThen_andThen

@[simp] theorem on_pure (a : α) (s : Server) : (pure a : Dialogue α).on s = (a, s) := rfl

@[simp] theorem on_ask (c : Call) (s : Server) : (ask c).on s = s.perform c := rfl

/-- **A dialogue goes on where the one before it left off.** -/
theorem on_bind (first : Dialogue α) (next : α → Dialogue β) (s : Server) :
    (first >>= next).on s = (next (first.on s).1).on (first.on s).2 := by
  induction first generalizing s with
  | done a => rfl
  | call c rest ih => exact ih _ _

end Dialogue
end AppOperator
