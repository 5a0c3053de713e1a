import SessionGate.Text.Utf8
import SessionGate.Url.Parser
import SessionGate.Url.Punycode

/-! A look-up of domain names for rehearsals: it stands in for the tables of all scripts, of which
it knows a few letters only. What is proved of URLs is proved of every look-up. -/

namespace SessionGate.FamiliarScripts

open Url

/-- A character that no domain name may hold. -/
def isForbiddenInDomain (c : Char) : Bool :=
  c.toNat ≤ 0x20 || c.toNat == 0x7F ||
    ['%', '#', '/', ':', '<', '>', '?', '@', '[', '\\', ']', '^', '|'].contains c

/-- A character as a domain name takes it: small, narrow, or not at all. Letters of other scripts
than those that are told apart here stay as they are. -/
def mapDomainChar (c : Char) : List Char :=
  let point := c.toNat
  -- Letters of scripts with two cases become small, since names are compared without case.
  if point < 0x80 then [Text.lowerChar c]
  -- These characters do not show and are left out.
  else if point == 0xAD || point == 0x200B || point == 0x2060 || point == 0xFEFF then []
  -- Full stops of other scripts separate labels, too.
  else if point == 0x3002 || point == 0xFF0E || point == 0xFF61 then ['.']
  else if 0xFF01 ≤ point && point ≤ 0xFF5E then [Text.lowerChar (Char.ofNat (point - 0xFEE0))]
  else if 0xC0 ≤ point && point ≤ 0xDE && point != 0xD7 then [Char.ofNat (point + 32)]
  else if 0x100 ≤ point && point ≤ 0x137 && point % 2 == 0 then [Char.ofNat (point + 1)]
  else if 0x391 ≤ point && point ≤ 0x3A9 && point != 0x3A2 then [Char.ofNat (point + 32)]
  else if 0x410 ≤ point && point ≤ 0x42F then [Char.ofNat (point + 32)]
  else if 0x400 ≤ point && point ≤ 0x40F then [Char.ofNat (point + 80)]
  else [c]

/-- A label as it is looked up. -/
def asciiLabel (label : List Char) : List Char :=
  if label.all fun c => c.toNat < 0x80 then label
  else "xn--".toList ++ Punycode.encode label

/-- The labels of a name. -/
def labels : List Char → List (List Char)
  | [] => [[]]
  | c :: rest =>
    match labels rest with
    | first :: others => if c == '.' then [] :: first :: others else (c :: first) :: others
    | [] => [[c]]

/-- A character outside ASCII that no label holds: a control, a blank, a joiner, a private one. -/
def isRefusedInLabel (c : Char) : Bool :=
  let point := c.toNat
  (0x80 ≤ point && point < 0xA0) || (0x80 ≤ point && Text.isBlank c) ||
    (0x200C ≤ point && point ≤ 0x200F) || (0x202A ≤ point && point ≤ 0x202E) ||
    (0xE000 ≤ point && point ≤ 0xF8FF) || (0xFFF0 ≤ point && point ≤ 0xFFFF) || 0xE0000 ≤ point

/-- Whether a label may stand: in its encoded form it must tell of a label outside ASCII that would
be encoded as it is. -/
def isLabel (label : List Char) : Bool :=
  if "xn--".toList.isPrefixOf label then
    -- An encoded label that a plain one would do for is refused.
    match Punycode.decode (label.drop 4) with
    | none => false
    | some told =>
      told.any (0x80 ≤ ·.toNat) &&
        told.all fun c => mapDomainChar c == [c] && !isForbiddenInDomain c && !isRefusedInLabel c
  else !label.any isRefusedInLabel

/-- A domain name as it is looked up, if it may be one. -/
def find? (bytes : List UInt8) : Option (List Char) :=
  match Text.ofUtf8? bytes with
  | none => none
  | some text =>
    let mapped := text.toList.flatMap mapDomainChar
    -- Mapping may bring out a forbidden character, so it comes first.
    if mapped.any isForbiddenInDomain then none
    else
      let parts := labels mapped
      if parts.all isLabel then some (List.intercalate ['.'] (parts.map asciiLabel)) else none

/-- Plain names need no tables, and the others are looked up in the letters that are known. -/
instance lookup : DomainLookup where
  find? bytes := if isPlainName bytes then some (smallLetters bytes) else find? bytes
  find?_plain _ plain := if_pos plain

end SessionGate.FamiliarScripts
