namespace AngularClient

inductive Severity
  | warning | error
  deriving DecidableEq

structure Remark where
  severity : Severity
  message : String
  deriving DecidableEq

inductive Style
  | red | green | yellow | cyan | bold | dimmed | boldGreen
  deriving DecidableEq

namespace Style

def attributes : Style → List Char
  | .red => ['3', '1']
  | .green => ['3', '2']
  | .yellow => ['3', '3']
  | .cyan => ['3', '6']
  | .bold => ['1']
  | .dimmed => ['2']
  | .boldGreen => ['1', ';', '3', '2']

def start (style : Style) : List Char := '\x1b' :: '[' :: style.attributes ++ ['m']

def reset : List Char := ['\x1b', '[', '0', 'm']

def resume (style : Style) : List Char → List Char
  | '\x1b' :: '[' :: '0' :: 'm' :: rest => reset ++ style.start ++ resume style rest
  | c :: rest => c :: resume style rest
  | [] => []

def paint (colours : Bool) (style : Style) (s : String) : String :=
  if colours then String.ofList (style.start ++ style.resume s.toList ++ reset) else s

end Style

namespace Console

def line (colours : Bool) (style : Style) (label text : String) : String :=
  "  " ++ style.paint colours label ++ " " ++ text ++ "\n"

def remark (colours : Bool) (r : Remark) : String :=
  match r.severity with
  | .warning => line colours .yellow "warn" r.message
  | .error => line colours .red "error" r.message

def remarks (colours : Bool) (rs : List Remark) : String := String.join (rs.map (remark colours))

def created (colours : Bool) (path : String) : String := line colours .green "create" path

def updated (colours : Bool) (path : String) : String := line colours .cyan "update" path

def success (colours : Bool) (message : String) : String :=
  "\n" ++ Style.boldGreen.paint colours message ++ "\n"

end Console

end AngularClient
