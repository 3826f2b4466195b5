/-!
Redaction of diagnostics. A diagnostic quotes the value at fault in double quotes and the name at
fault, which comes first, in backticks; what stands inside is replaced before it is shown.
-/

namespace Debuggee.Text

def redacted : List Char := "<redacted>".toList

/--
Replaces what stands between the first and second double quote, the third and fourth, and so on.
A quote without a partner leaves the rest as it is.
-/
def redactQuoted (symbols : List Char) : List Char :=
  outside symbols
where
  outside : List Char → List Char
    | [] => []
    | '"' :: rest => '"' :: inside [] rest
    | symbol :: rest => symbol :: outside rest
  /-- `passed` is the text since the opening quote, latest first. -/
  inside (passed : List Char) : List Char → List Char
    | [] => passed.reverse
    | '"' :: rest => redacted ++ '"' :: outside rest
    | symbol :: rest => inside (symbol :: passed) rest

def redactFirstName (symbols : List Char) : List Char :=
  let before := symbols.takeWhile (· ≠ '\x60')
  match symbols.dropWhile (· ≠ '\x60') with
  | [] => symbols
  | _ :: rest =>
    match rest.dropWhile (· ≠ '\x60') with
    | [] => symbols
    | closing => before ++ '\x60' :: redacted ++ closing

def redactList (symbols : List Char) : List Char :=
  redactFirstName (redactQuoted symbols)

def redact (diagnostic : String) : String :=
  String.ofList (redactList diagnostic.toList)

end Debuggee.Text
