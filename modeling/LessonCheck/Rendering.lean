import LessonCheck.Diagnostic
import LessonCheck.Text.Line

/-!
# Rendering over the source

Each diagnostic with the source line that it is about beneath it. The line numbers stand right-aligned in
one column, at least four wide.
-/

namespace LessonCheck.Rendering

def columnWidth (ds : List Diagnostic) : Nat :=
  ds.foldl (fun w d => max w (Text.ofNat d.line).length) 4

def sourceLine? (source : Text) (line : Nat) : Option Text :=
  match line with
  | 0 => none
  | i + 1 => source.lines[i]?

def entry (source : Text) (width : Nat) (d : Diagnostic) : Text :=
  let shown := match sourceLine? source d.line with
    | some l => Text.padded width d.line ++ " | ".toList ++ Text.trimEnd l ++ ['\n']
    | none => []
  d.display ++ '\n' :: shown

def render (source : Text) (ds : List Diagnostic) : Text := ds.flatMap (entry source (columnWidth ds))

end LessonCheck.Rendering
