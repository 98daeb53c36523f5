/-!
# Line — an instruction on one line of assembler source

A line is the mnemonic, then, if there are operands, a space and the operands with a comma and a
space between them.  `Line.read` undoes this for a mnemonic without a space and operands that do not
hold a comma followed by a space.
-/

namespace AsmForms

namespace Line

/-- **The line of an instruction.** -/
def render (mnemonic : String) (operands : List String) : String :=
  match operands with
  | [] => mnemonic
  | _ => mnemonic ++ " " ++ ", ".intercalate operands

/-- Puts a character in front of the first of several pieces. -/
def consFirst (c : Char) : List (List Char) → List (List Char)
  | [] => [[c]]
  | piece :: pieces => (c :: piece) :: pieces

/-- Cuts a text at every comma that a space follows, from left to right. -/
def splitOperands : List Char → List (List Char)
  | [] => [[]]
  | ',' :: ' ' :: rest => [] :: splitOperands rest
  | c :: rest => consFirst c (splitOperands rest)

/-- The mnemonic before the first space of a line, and the operands after it. -/
def read (line : String) : String × List String :=
  let mnemonic := String.ofList (line.toList.takeWhile (· != ' '))
  match line.toList.dropWhile (· != ' ') with
  | [] => (mnemonic, [])
  | _ :: rest => (mnemonic, (splitOperands rest).map String.ofList)

end Line

end AsmForms
