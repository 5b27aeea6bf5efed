import OracleCatalog.Statement.Request

/-!
# Reading a buffer

How the reader of a buffer moves when it asks for the next row or for all of them. It takes the rows
one after the other until it finds the end, and is handed the same rows again from then on.
-/

namespace OracleCatalog

/-- A call for the next row, or for all rows. -/
inductive Pull where
  | next | all
  deriving DecidableEq

def Pull.request (shape : RowShape) : Pull → Request
  | .next => .fetch shape
  | .all => .fetchAll shape

/-- Where the reader of a buffer is: behind so many rows before the end has been found, or behind so
many rows that have been handed out again. -/
inductive Reader where
  | taking (taken : Nat)
  | replaying (index : Nat)

namespace Reader

/-- The answer to the reader of these rows. -/
def answer (script : List Value) : Reader → Pull → Value
  | _, .all => .list script
  | .taking taken, .next => script[taken]?.getD .null
  | .replaying index, .next => script[index]?.getD .null

theorem answer_taking_end (script : List Value) :
    (taking script.length).answer script .next = .null := by
  show script[script.length]?.getD .null = .null
  rw [List.getElem?_eq_none (Nat.le_refl _)]
  rfl

/-- Where the reader of `n` rows is after an answer. -/
def after (n : Nat) : Reader → Pull → Reader
  | .taking taken, .next => if taken < n then .taking (taken + 1) else .replaying 0
  | .taking _, .all => .replaying 0
  | .replaying index, .next => .replaying (index + 1)
  | .replaying index, .all => .replaying index

theorem after_taking_lt {n taken : Nat} (h : taken < n) :
    after n (.taking taken) .next = .taking (taken + 1) := if_pos h

theorem after_taking_end {n taken : Nat} (h : n ≤ taken) :
    after n (.taking taken) .next = .replaying 0 := if_neg (Nat.not_lt.2 h)

def afterEach (n : Nat) (reader : Reader) (pulls : List Pull) : Reader :=
  pulls.foldl (after n) reader

/-- How many calls for a row the reader of `n` rows makes at most until it finds the end. -/
def fetchesLeft (n : Nat) : Reader → Nat
  | .taking taken => n - taken + 1
  | .replaying _ => 0

theorem fetchesLeft_after (n taken : Nat) :
    (after n (.taking taken) .next).fetchesLeft n = n - taken := by
  by_cases h : taken < n
  · rw [after_taking_lt h]
    show n - (taken + 1) + 1 = n - taken
    omega
  · rw [after_taking_end (Nat.le_of_not_lt h)]
    show 0 = n - taken
    omega

theorem after_all_after (n taken : Nat) :
    (after n (.taking taken) .next).after n .all = .replaying 0 := by
  by_cases h : taken < n
  · rw [after_taking_lt h]
    rfl
  · rw [after_taking_end (Nat.le_of_not_lt h)]
    rfl

/-- What the database has been asked for: each row, and closed once the end has been found. -/
def asked (cursor n : Nat) : Reader → List Event
  | .taking taken => List.replicate taken (.fetchOne cursor)
  | .replaying _ => List.replicate (n + 1) (.fetchOne cursor) ++ [.close cursor]

/-! ### Finding the end -/

/-- How many calls there are before the one that finds the end of `n` rows: the first one that asks
for all rows, or for a row when all have been taken. -/
def callsBeforeEnd (n : Nat) (pulls : List Pull) : Nat := min n (pulls.idxOf .all)

theorem afterEach_replaying (n index : Nat) (pulls : List Pull) :
    (replaying index).afterEach n pulls = .replaying (index + pulls.count .next) := by
  induction pulls generalizing index with
  | nil => rfl
  | cons pull rest ih =>
    cases pull with
    | next =>
      rw [List.count_cons_self, ← Nat.add_assoc, Nat.add_right_comm]
      exact ih (index + 1)
    | all =>
      rw [List.count_cons_of_ne (by decide)]
      exact ih index

/-- The reader takes one row with each call until a call finds the end, and is handed one row again
with each call for a row from then on. -/
theorem afterEach_taking {n taken i : Nat} {pulls : List Pull} (h : taken ≤ n)
    (hi : i ≤ pulls.length) :
    (taking taken).afterEach n (pulls.take i) =
      if i ≤ callsBeforeEnd (n - taken) pulls then .taking (taken + i)
      else .replaying
        (((pulls.take i).drop (callsBeforeEnd (n - taken) pulls + 1)).count .next) := by
  induction pulls generalizing taken i with
  | nil =>
    obtain rfl := Nat.le_zero.1 hi
    rw [if_pos (Nat.zero_le _)]
    rfl
  | cons pull rest ih =>
    cases i with
    | zero =>
      rw [if_pos (Nat.zero_le _)]
      rfl
    | succ i =>
      have hi' : i ≤ rest.length := Nat.le_of_succ_le_succ hi
      rw [List.take_succ_cons]
      -- the first call finds the end, or takes a row
      have hfound : callsBeforeEnd (n - taken) (pull :: rest) = 0 →
          after n (.taking taken) pull = .replaying 0 →
          (taking taken).afterEach n (pull :: rest.take i) =
            if i + 1 ≤ callsBeforeEnd (n - taken) (pull :: rest) then .taking (taken + (i + 1))
            else .replaying (((pull :: rest.take i).drop
              (callsBeforeEnd (n - taken) (pull :: rest) + 1)).count .next) := by
        intro hend hafter
        rw [hend, if_neg (by omega), List.drop_succ_cons, List.drop_zero]
        show (after n (.taking taken) pull).afterEach n (rest.take i) = _
        rw [hafter, afterEach_replaying, Nat.zero_add]
      cases pull with
      | all =>
        refine hfound ?_ rfl
        unfold callsBeforeEnd
        rw [List.idxOf_cons_self, Nat.min_zero]
      | next =>
        by_cases hlt : taken < n
        · have hend : callsBeforeEnd (n - taken) (.next :: rest) =
              callsBeforeEnd (n - (taken + 1)) rest + 1 := by
            have hidx : (Pull.next :: rest).idxOf .all = rest.idxOf .all + 1 := List.idxOf_cons
            unfold callsBeforeEnd
            rw [hidx]
            omega
          show (after n (.taking taken) .next).afterEach n (rest.take i) = _
          rw [after_taking_lt hlt, ih hlt hi', hend, List.drop_succ_cons, Nat.succ_add_eq_add_succ]
          simp only [Nat.succ_eq_add_one, Nat.add_le_add_iff_right]
        · refine hfound ?_ ?_
          · unfold callsBeforeEnd
            rw [Nat.sub_eq_zero_of_le (Nat.le_of_not_lt hlt), Nat.zero_min]
          · exact after_taking_end (Nat.le_of_not_lt hlt)

theorem next_of_lt_callsBeforeEnd {n i : Nat} {pulls : List Pull}
    (h : i < callsBeforeEnd n pulls) (hi : i < pulls.length) : pulls[i]? = some .next := by
  have hidx : i < pulls.findIdx (· == .all) := Nat.lt_of_lt_of_le h (Nat.min_le_right _ _)
  have hne : (pulls[i] == .all) = false := List.not_of_lt_findIdx hidx
  rw [List.getElem?_eq_getElem hi]
  cases hpull : pulls[i] with
  | next => rfl
  | all => rw [hpull] at hne; cases hne

theorem callsBeforeEnd_of_next {n : Nat} {pulls : List Pull}
    (h : pulls[callsBeforeEnd n pulls]? = some .next) : callsBeforeEnd n pulls = n := by
  rcases Nat.le_total n (pulls.idxOf .all) with hle | hle
  · exact Nat.min_eq_left hle
  · have hend : callsBeforeEnd n pulls = pulls.idxOf .all := Nat.min_eq_right hle
    rw [hend] at h
    obtain ⟨hlt, hnext⟩ := List.getElem?_eq_some_iff.1 h
    rw [List.getElem_idxOf hlt] at hnext
    cases hnext

end Reader

end OracleCatalog
