import OracleCatalog.Dialect
import OracleCatalog.Text.Case

/-!
# Sequences

Engines without identity columns generate keys with a sequence and a trigger that draws from it. The
blocks that create or drop a sequence look first whether it is there.
-/

namespace OracleCatalog.Definition

open OracleCatalog.Text

/-! ### Sequences -/

def sequenceName (table : Value) : String := upper ("SEQ_" ++ table.toText)

def createSequence (name : Value) : String :=
  "CREATE SEQUENCE " ++ name.toText ++ " START WITH 1 MINVALUE 1 INCREMENT BY 1 CACHE 20"

def dropSequence (name : Value) : String := "DROP SEQUENCE " ++ name.toText

/-- A block that runs a command when a sequence exists `count` times. -/
def sequenceBlock (name command : String) (count : Nat) : String := lines [
  "declare",
  "    ex NUMBER;",
  "begin",
  "    SELECT count(*) INTO ex FROM user_sequences WHERE sequence_name = '" ++ name ++ "';",
  "    if (ex = " ++ natText count ++ ") then",
  "        execute immediate '" ++ command ++ "';",
  "    end if;",
  "end;"]

/-- A block for the sequence of a name in capitals; a command that is missing or empty is taken from
the name. -/
def sequenceBlockFor (name command : Value) (default : Value → String) (count : Nat) :
    Except Error String := do
  let name ← name.toUpper
  return sequenceBlock name.toText (command.orElse (.text (default name))).toText count

/-- Creates a sequence unless it is there. -/
def createSequenceIfAbsent (name command : Value) : Except Error String :=
  sequenceBlockFor name command createSequence 0

def dropSequenceIfPresent (name command : Value) : Except Error String :=
  sequenceBlockFor name command dropSequence 1

/-! ### Triggers -/

/-- The trigger that gives new rows their keys; a key given by hand moves the sequence past it. -/
def keyTrigger (table quotedTable sequence column : String) : String := lines [
  "CREATE TRIGGER t_" ++ table,
  "   BEFORE INSERT",
  "   ON " ++ quotedTable,
  "   FOR EACH ROW",
  "DECLARE",
  "   last_Sequence NUMBER;",
  "   last_InsertID NUMBER;",
  "BEGIN",
  "   IF (:NEW." ++ column ++ " IS NULL OR :NEW." ++ column ++ " = 0) THEN",
  "      SELECT " ++ sequence ++ ".NEXTVAL INTO :NEW." ++ column ++ " FROM DUAL;",
  "   ELSE",
  "      SELECT NVL(Last_Number, 0) INTO last_Sequence",
  "        FROM User_Sequences",
  "       WHERE Sequence_Name = '" ++ sequence ++ "';",
  "      SELECT :NEW." ++ column ++ " INTO last_InsertID FROM DUAL;",
  "      WHILE (last_InsertID > last_Sequence) LOOP",
  "         SELECT " ++ sequence ++ ".NEXTVAL INTO last_Sequence FROM DUAL;",
  "      END LOOP;",
  "   END IF;",
  "END;"]

/-- The command that creates a sequence from a start other than one. -/
def startingAt (start command : String) : String :=
  replace "START WITH 1" ("START WITH " ++ start) command

/-- The statements that generate the keys of a column: none where the column does it itself. -/
def keyGeneration (dialect : Dialect) (column table start : Value) :
    Except Error (List String) := do
  if dialect.usesIdentity then return []
  let quotedTable ← dialect.quoted table
  let quotedColumn ← dialect.quoted column
  let sequence := sequenceName table
  let command := createSequence (.text sequence)
  let command ←
    if ← start.isNumber 1 then pure command
    else start.wholeText.map fun start => startingAt start command
  let block ← createSequenceIfAbsent (.text sequence) (.text command)
  return [block, keyTrigger table.toText quotedTable sequence quotedColumn]

end OracleCatalog.Definition
