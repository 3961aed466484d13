import LessonCheck.Execution

/-!
# The program

The outer layer: it reads the files that the arguments name, the environment and the standard input, and
prints what the run comes to. A session is answered line by line.
-/

namespace LessonCheck

/-- Codes of the system come with either sign. -/
def ReadFailure.ofError : IO.Error → ReadFailure
  | .noFileOrDirectory .. => .missing
  | .inappropriateType _ code _ => if min code (-code) = 20 then .notDirectory else .isDirectory
  | e => .other (toString e).toList

/-- The files that are opened have texts as names, since the arguments come as strings. -/
def readFile (name : Text) : IO (Except ReadFailure Text) := do
  if name = [] then return .error .missing
  try return decode (← IO.FS.readBinFile (String.ofList name))
  catch e => return .error (.ofError e)

def sourceOf (files : List NativeText) : IO FileSource := do
  let texts ← (files.filter NativeText.isText).mapM fun name => return (name, ← readFile name.shown)
  return fun name => (texts.lookup name).getD (.error .missing)

/-- The rest of a session, with the exit code that it comes to. -/
partial def converse (terminal : Terminal) (input output : IO.FS.Stream) (s : Session) : IO Nat := do
  output.putStr (String.ofList (s.prompt terminal))
  output.flush
  match (Text.lines (← input.getLine).toList).map TypedLine.read? with
  | [] =>
    output.putStr (String.ofList Session.endMark)
    return 0
  | none :: _ => return Completion.brokenCode
  | some line :: _ =>
    match s.enter line with
    | (none, next) => converse terminal input output next
    | (some .quit, _) => return 0
    | (some reply, next) =>
      output.putStr (String.ofList (reply.styled terminal ++ ['\n']))
      output.flush
      converse terminal input output next

def readEnvironment : IO Environment := do
  let values ← (Settings.variableName :: Terminal.variableNames).mapM fun name =>
    return (name, (← IO.getEnv (String.ofList name)).map String.toList)
  return fun name => (values.lookup name).join

def finish (c : Completion) : IO UInt32 := do
  (← IO.getStdout).putStr (String.ofList c.output)
  if let some f := c.failure then
    (← IO.getStderr).putStrLn (String.ofList (Completion.programName ++ ": ".toList ++ f.message))
  return c.exitCode.toUInt32

end LessonCheck

open LessonCheck in
def main (arguments : List String) : IO UInt32 := do
  let request := Request.ofArguments (arguments.map fun a => .text a.toList)
  let environment ← readEnvironment
  match request with
  | .run i =>
    let w : Surroundings := ⟨← sourceOf i.files, environment, []⟩
    match i.task, i.settings w with
    | .session, .ok settings =>
      let output ← IO.getStdout
      output.putStr (String.ofList (Session.greeting settings.strictness))
      output.flush
      let code ← converse (.ofEnvironment environment) (← IO.getStdin) output (.start settings.strictness)
      return code.toUInt32
    | _, _ => finish (request.complete w)
  | _ => finish (request.complete ⟨fun _ => .error .missing, environment, []⟩)
