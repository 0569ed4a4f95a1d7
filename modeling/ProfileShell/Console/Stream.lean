import ProfileShell.Console.Basic

/-!
A console on streams: the readings that bytes come to, and the text that appears.
-/

set_option autoImplicit false
set_option relaxedAutoImplicit false

namespace ProfileShell.Console

/-- The lines of bytes, without the line feeds that end them; a last line may lack its feed. -/
def byteLines : List UInt8 → List (List UInt8)
  | [] => []
  | b :: bs =>
    if b = 10 then [] :: byteLines bs
    else
      match byteLines bs with
      | [] => [[b]]
      | line :: rest => (b :: line) :: rest

/-- A text without the carriage returns at its end. -/
def dropReturns (s : String) : String :=
  String.ofList (s.toList.reverse.dropWhile (· == '\r')).reverse

/-- The reading that a line of bytes comes to: its text, if it is UTF-8. -/
def readingOfBytes (line : List UInt8) : Input :=
  match String.fromUTF8? ⟨line.toArray⟩ with
  | some text => .line (dropReturns text)
  | none => .failure .notUtf8

def readings (content : ByteArray) : List Input :=
  (byteLines content.toList).map readingOfBytes

/-- The text that appears when so many readings were there to be taken. A prompt stays on its line,
which the end of input ends. -/
def shown (readings : Nat) : List Exchange → List String
  | [] => []
  | .read prompt :: rest =>
    match readings with
    | 0 => prompt :: "\n" :: shown 0 rest
    | n + 1 => prompt :: shown n rest
  | .say line :: rest => line :: "\n" :: shown readings rest

def screen (readings : Nat) (transcript : List Exchange) : String :=
  String.join (shown readings transcript)

/-- What happens on a console until a line is asked for after so many readings; the flag tells
whether one is. -/
def untilAsked : Nat → List Exchange → Bool × List Exchange
  | _, [] => (false, [])
  | readings, .say line :: rest =>
    let (asked, before) := untilAsked readings rest
    (asked, .say line :: before)
  | 0, .read prompt :: _ => (true, [.read prompt])
  | n + 1, .read prompt :: rest =>
    let (asked, before) := untilAsked n rest
    (asked, .read prompt :: before)

end ProfileShell.Console
