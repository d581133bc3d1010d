import ScriptedChat.Participant
import ScriptedChat.Script.Basic

/-!
The answers of all participants of a bot as a table: a column for each block that waits for an
answer, by ascending state, and a row for each participant, by ascending user.
-/
namespace ScriptedChat

structure AnswersTable where
  head : List String
  body : List (List String)
  deriving DecidableEq

namespace AnswersTable

/-- The title of the column that names the user. -/
def userColumn : String := "UserID"

/-- What a participant answered at a block, or nothing. -/
def cell (p : Participant) (b : Block) : String :=
  match p.answerAt? b.state with
  | some a => a.text
  | none => ""

def row (columns : List Block) (p : Participant) : List String :=
  toString p.address.user :: columns.map (cell p)

def build (script : Script) (participants : List Participant) : AnswersTable where
  head := userColumn :: script.questions.map Block.title
  body := (participants.mergeSort fun a b => a.address.user ≤ b.address.user).map
    (row script.questions)

end AnswersTable

end ScriptedChat
