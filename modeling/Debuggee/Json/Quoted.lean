import Debuggee.Bytes
import Debuggee.Draft

/-!
Texts between double quotes in data. Writing escapes quotes, backslashes and controls and leaves
everything else as it is; reading knows all escapes, among them surrogate pairs. Passing over a
text asks for less: its escapes need not stand for characters.
-/

namespace Debuggee.Json

open Bytes (ascii)

def quote : UInt8 := ascii '\"'

def backslash : UInt8 := ascii '\\'

def escapeOctet (octet : UInt8) : Bytes :=
  if octet = quote then [backslash, quote]
  else if octet = backslash then [backslash, backslash]
  else if octet = 8 then [backslash, ascii 'b']
  else if octet = 12 then [backslash, ascii 'f']
  else if octet = 10 then [backslash, ascii 'n']
  else if octet = 13 then [backslash, ascii 'r']
  else if octet = 9 then [backslash, ascii 't']
  else if octet < 32 then
    [backslash, ascii 'u', ascii '0', ascii '0',
      Bytes.hexDigit (octet.toNat / 16), Bytes.hexDigit (octet.toNat % 16)]
  else [octet]

def renderText (text : String) : Bytes :=
  quote :: ((Bytes.ofString text).flatMap escapeOctet ++ [quote])

def plainEscape? (letter : UInt8) : Option UInt8 :=
  if letter = quote then some quote
  else if letter = backslash then some backslash
  else if letter = ascii '/' then some (ascii '/')
  else if letter = ascii 'b' then some 8
  else if letter = ascii 'f' then some 12
  else if letter = ascii 'n' then some 10
  else if letter = ascii 'r' then some 13
  else if letter = ascii 't' then some 9
  else none

def fourHexDigits? (first second third fourth : UInt8) : Option Nat := do
  let a ← Bytes.hexValue? first
  let b ← Bytes.hexValue? second
  let c ← Bytes.hexValue? third
  let d ← Bytes.hexValue? fourth
  return ((16 * a + b) * 16 + c) * 16 + d

def isLeadingSurrogate (unit : Nat) : Bool :=
  0xD800 ≤ unit && unit ≤ 0xDBFF

def isTrailingSurrogate (unit : Nat) : Bool :=
  0xDC00 ≤ unit && unit ≤ 0xDFFF

def joinSurrogates (leading trailing : Nat) : Nat :=
  (leading - 0xD800) * 0x400 + (trailing - 0xDC00) + 0x10000

def reversedOctets (codePoint : Nat) : Bytes :=
  (String.utf8EncodeChar (Char.ofNat codePoint)).reverse

/--
Reads a text after its opening quote, up to the closing one. `done` holds the octets read so far,
latest first. The result need not be valid UTF-8.
-/
def unescape (done : Bytes) : Bytes → Except Fault Bytes
  | [] => .error .endInText
  | octet :: rest =>
    if octet = quote then .ok done.reverse
    else if octet = backslash then
      match rest with
      | [] => .error .endInText
      | letter :: rest =>
        match plainEscape? letter with
        | some meant => unescape (meant :: done) rest
        | none =>
          if letter ≠ ascii 'u' then .error .invalidEscape
          else
            match rest with
            | a :: b :: c :: d :: rest =>
              match fourHexDigits? a b c d with
              | none => .error .invalidEscape
              | some unit =>
                if isTrailingSurrogate unit then .error .loneSurrogate
                else if !isLeadingSurrogate unit then
                  unescape (reversedOctets unit ++ done) rest
                else
                  match rest with
                  | [] => .error .endInText
                  | first :: rest =>
                    if first ≠ backslash then .error .unfinishedSurrogates
                    else
                      match rest with
                      | [] => .error .endInText
                      | second :: rest =>
                        if second ≠ ascii 'u' then .error .unfinishedSurrogates
                        else
                          match rest with
                          | e :: f :: g :: h :: rest =>
                            match fourHexDigits? e f g h with
                            | none => .error .invalidEscape
                            | some other =>
                              if !isTrailingSurrogate other then .error .loneSurrogate
                              else
                                unescape (reversedOctets (joinSurrogates unit other) ++ done)
                                  rest
                          | _ => .error .endInText
            | _ => .error .endInText
    else if octet < 32 then .error .controlCharacter
    else unescape (octet :: done) rest

def passText : Bytes → Except Fault Bytes
  | [] => .error .endInText
  | octet :: rest =>
    if octet = quote then .ok rest
    else if octet = backslash then
      match rest with
      | [] => .error .endInText
      | letter :: rest =>
        if (plainEscape? letter).isSome then passText rest
        else if letter ≠ ascii 'u' then .error .invalidEscape
        else
          match rest with
          | a :: b :: c :: d :: rest =>
            if (fourHexDigits? a b c d).isSome then passText rest
            else .error .invalidEscape
          | _ => .error .endInText
    else if octet < 32 then .error .controlCharacter
    else passText rest

def readText (octets : Bytes) : Except Fault String := do
  let content ← unescape [] octets
  match Bytes.text? content with
  | some text => .ok text
  | none => .error .invalidUnicode

end Debuggee.Json
