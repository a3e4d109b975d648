/-!
# Scripts

What a command says: words, made of parts that are expanded when it is run, and scripts, made of
simple commands. Texts in it hold one character for each byte. What stands in the place of a value -
a script in parentheses, an expression, another word - is kept as text and read when it is run.
-/
namespace Workflow.Shell

/-- What is done with the value of a parameter. -/
inductive Change where
  | value
  | length
  /-- Another word for a value that is missing, or also for one that is empty. -/
  | instead (orEmpty : Bool) (word : List Char)
  /-- The same, and the parameter takes the value. -/
  | assign (orEmpty : Bool) (word : List Char)
  /-- A value that is missing ends the script. -/
  | require (orEmpty : Bool) (word : List Char)
  /-- Another word for a value that is there. -/
  | present (orEmpty : Bool) (word : List Char)
  /-- Takes the shortest or longest start or end that matches a pattern away. -/
  | dropStart (longest : Bool) (pattern : List Char)
  | dropEnd (longest : Bool) (pattern : List Char)

inductive Part where
  | literal (text : List Char)
  | quoted (text : List Char)
  | parameter (isQuoted : Bool) (name : String) (change : Change)
  /-- What a script writes; with the line on which it begins if it is read with the script around it. -/
  | output (isQuoted : Bool) (line : Option Nat) (script : List Char)
  | arithmetic (isQuoted : Bool) (expression : List Char)
  /-- No expansion has this form. -/
  | malformed

abbrev Word := List Part

inductive Direction where
  | input
  | output
  | append
  | copy
  /-- The word is what is read; `isIndented` if tabs in front of its lines do not count. -/
  | here (isIndented : Bool)
deriving DecidableEq

structure Redirection where
  descriptor : Nat
  direction : Direction
  word : Word

inductive Script where
  | nothing
  | simple (line : Nat) (assignments : List (String × Word)) (words : List Word)
      (redirections : List Redirection)
  | pipe (stages : List Script)
  | negate (s : Script)
  | both (s t : Script)
  | either (s t : Script)
  | sequence (s t : Script)
  | background (s : Script)
  | subshell (line : Nat) (s : Script)
  | redirected (line : Nat) (s : Script) (redirections : List Redirection)
  | branch (condition yes no : Script)
  /-- Repeats the body while the condition has the outcome `goal`. -/
  | loop (goal : Bool) (condition body : Script)
  /-- Runs the body for each word, or without words for each argument. -/
  | each (line : Nat) (name : String) (words : Option (List Word)) (body : Script)
  /-- Runs the first arm one of whose patterns matches. -/
  | choice (line : Nat) (subject : Word) (arms : List (List Word × Script))
  | define (name : String) (body : Script)

end Workflow.Shell
