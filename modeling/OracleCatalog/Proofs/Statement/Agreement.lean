import OracleCatalog.Proofs.Session.Agreement
import OracleCatalog.Statement.Plain

/-!
# Statements that agree

Statements on cursors of different numbers agree in everything that they do, where the database
answers a statement with its parameters always in the same way.
-/

namespace OracleCatalog

open OracleCatalog.Action (Agree)
open Outlook (Seen)

variable {reply : String → Value → Reply} {v w : Outlook}

/-- The same cursor, except for its number. -/
def Cursor.Renumbered (cursor other : Cursor) : Prop := ∃ number, other = { cursor with number }

/-- The same statement on a cursor of another number. -/
def PlainStatement.Renumbered (statement other : PlainStatement) : Prop :=
  ∃ cursor, statement.cursor.Renumbered cursor ∧ other = { statement with cursor }

namespace Cursor

theorem agree_execute (fixed : Outlook.Fixed reply v w) (sql : String) (parameters : Value) :
    Agree (Seen v w) Renumbered Eq (execute sql parameters) (execute sql parameters) := by
  rintro s _ env env' ⟨number, rfl⟩ ⟨rfl, rfl⟩
  have hleft : env.answering = .fixed reply := fixed.answering
  have hright : env'.answering = .fixed reply := fixed.otherAnswering
  unfold execute
  rw [Action.perform_ofFunction, Action.perform_ofFunction]
  simp only [Environment.takeReply, Environment.observe, hleft, hright, Answering.reply]
  cases (reply sql parameters).failure with
  | some fault =>
    exact ⟨rfl, ⟨number, rfl⟩, by rw [← hleft]; rfl, by rw [← hright]; rfl⟩
  | none =>
    exact ⟨rfl, ⟨number, rfl⟩, by rw [← hleft]; rfl, by rw [← hright]; rfl⟩

theorem takeRow_renumbered (cursor : Cursor) (number : Nat) :
    ({ cursor with number } : Cursor).takeRow =
      (cursor.takeRow.1, { cursor.takeRow.2 with number }) := by
  have hfault : ({ cursor with number } : Cursor).nextFault = cursor.nextFault := rfl
  unfold takeRow
  rw [hfault]
  cases cursor.nextFault with
  | some fault => rfl
  | none =>
    obtain ⟨_, _, rows, _, _, _⟩ := cursor
    cases rows <;> rfl

theorem takeRows_renumbered (cursor : Cursor) (number : Nat) :
    ({ cursor with number } : Cursor).takeRows =
      (cursor.takeRows.1, { cursor.takeRows.2 with number }) := by
  unfold takeRows
  have hfault : ({ cursor with number } : Cursor).nextFault = cursor.nextFault := rfl
  rw [hfault]
  cases cursor.nextFault with
  | some fault => rfl
  | none => rfl

theorem agree_fetchOne : Agree (Seen v w) Renumbered Eq fetchOne fetchOne := by
  rintro s _ env env' ⟨number, rfl⟩ ⟨rfl, rfl⟩
  unfold fetchOne
  rw [Action.perform_ofFunction, Action.perform_ofFunction, takeRow_renumbered s number]
  exact ⟨Error.agree_refl _, ⟨number, rfl⟩, rfl, rfl⟩

theorem agree_fetchAll : Agree (Seen v w) Renumbered Eq fetchAll fetchAll := by
  rintro s _ env env' ⟨number, rfl⟩ ⟨rfl, rfl⟩
  unfold fetchAll
  rw [Action.perform_ofFunction, Action.perform_ofFunction, takeRows_renumbered s number]
  exact ⟨Error.agree_refl _, ⟨number, rfl⟩, rfl, rfl⟩

theorem agree_close : Agree (Seen v w) Renumbered Eq close close := by
  rintro s _ env env' ⟨number, rfl⟩ ⟨rfl, rfl⟩
  exact ⟨rfl, ⟨number, rfl⟩, rfl, rfl⟩

end Cursor

namespace PlainStatement

theorem agree_onCursor {α : Type} {action : Action Cursor α}
    (h : Agree (Seen v w) Cursor.Renumbered Eq action action) :
    Agree (Seen v w) Renumbered Eq (onCursor action) (onCursor action) := by
  refine Action.agree_within ?_ ?_ h
  · rintro s _ ⟨cursor, hcursor, rfl⟩
    exact hcursor
  · rintro s _ c d ⟨cursor, hcursor, rfl⟩ hcd
    exact ⟨d, hcd, rfl⟩

theorem agree_bindValue (placeholder value : Value) :
    Agree (Seen v w) Renumbered Eq (bindValue placeholder value) (bindValue placeholder value) := by
  refine Action.agree_bind Action.agree_state ?_
  rintro s _ ⟨cursor, hcursor, rfl⟩
  refine Action.agree_bind_eq (Action.agree_ofExcept (Error.agree_refl _)) fun bindings =>
    Action.agree_change ?_
  rintro s' _ ⟨cursor', hcursor', rfl⟩
  exact ⟨cursor', hcursor', rfl⟩

theorem agree_bindEach (placements : Entries) :
    Agree (Seen v w) Renumbered Eq (bindEach placements) (bindEach placements) := by
  induction placements with
  | nil => exact Action.agree_pure rfl
  | cons placement rest ih => exact Action.agree_bind_eq (agree_bindValue _ _) fun _ => ih

theorem agree_execute (fixed : Outlook.Fixed reply v w) (parameters : Value) :
    Agree (Seen v w) Renumbered Eq (execute parameters) (execute parameters) := by
  have hsend : Agree (Seen v w) Renumbered Eq
      (do let statement ← Action.state
          onCursor (Cursor.execute statement.sql statement.bindings.sent))
      (do let statement ← Action.state
          onCursor (Cursor.execute statement.sql statement.bindings.sent)) := by
    refine Action.agree_bind Action.agree_state ?_
    rintro s _ ⟨cursor, hcursor, rfl⟩
    exact agree_onCursor (Cursor.agree_execute fixed _ _)
  unfold execute
  cases parameters.truthy with
  | false => exact hsend
  | true =>
    refine Action.agree_bind_eq (Action.agree_change ?_) fun _ => ?_
    · rintro s _ ⟨cursor, hcursor, rfl⟩
      exact ⟨cursor, hcursor, rfl⟩
    · refine Action.agree_bind_eq (Action.agree_ofExcept (Error.agree_refl _)) fun placements => ?_
      exact Action.agree_bind_eq (agree_bindEach placements) fun _ => hsend

theorem agree_fetchAll (shape : RowShape) :
    Agree (Seen v w) Renumbered Eq (fetchAll shape) (fetchAll shape) := by
  refine Action.agree_bind_eq (agree_onCursor Cursor.agree_fetchAll) fun rows => ?_
  refine Action.agree_bind Action.agree_state ?_
  rintro s _ ⟨_, ⟨number, rfl⟩, rfl⟩
  exact Action.agree_pure rfl

theorem agree_close : Agree (Seen v w) Renumbered Eq close close :=
  agree_onCursor Cursor.agree_close

end PlainStatement

end OracleCatalog
