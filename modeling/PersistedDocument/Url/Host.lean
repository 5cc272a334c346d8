import PersistedDocument.Decimal.Digits
import PersistedDocument.Text.Hexadecimal
import PersistedDocument.Text.Percent
import PersistedDocument.Text.Split

/-!
# Hosts

A host is a name, or an address of one of the two kinds. What looks like an address must be one.
Names are in lower case.

Names beyond ASCII are left out. They would be written in ASCII by the rules for internationalized
names, with their tables of characters, and those that the rules refuse would be refused. Here all of
them are refused, so what is said about addresses says nothing about such names.
-/

namespace PersistedDocument.Url

open PersistedDocument.Text

/-! ### Addresses of four octets -/

/-- Whether a text looks like an address of four octets: four numbers with points between them. -/
def isFourNumbers (cs : List Char) : Bool :=
  let parts := splitOn '.' cs
  parts.length = 4 && parts.all fun part => !part.isEmpty && part.all Char.isDigit

/-- Whether a text is a decimal number below 256 without leading zeros. -/
def isDecimalOctet (cs : List Char) : Bool :=
  !cs.isEmpty && cs.all Char.isDigit && cs.length ≤ 3 && (cs = ['0'] || cs.head? ≠ some '0')
    && Decimal.ofDigits cs < 256

/-- Whether a text is four octets with points between them. -/
def isFourOctets (cs : List Char) : Bool :=
  let parts := splitOn '.' cs
  parts.length = 4 && parts.all isDecimalOctet

/-! ### Addresses of eight groups -/

/-- Whether a text is a group of an address: one to four hexadecimal digits. -/
def isGroup (cs : List Char) : Bool :=
  !cs.isEmpty && cs.length ≤ 4 && cs.all fun c => (Hexadecimal.value? c).isSome

/-- The parts of an address, in which four octets at the end count as two groups; none if what looks
like octets is wrong. -/
def groupParts? (cs : List Char) : Option (List (List Char)) :=
  let parts := splitOn ':' cs
  if parts.length < 3 then none
  else
    match parts.getLast? with
    | some last =>
      if last.contains '.' then
        if isFourOctets last then some (parts.dropLast ++ [['0'], ['0']]) else none
      else some parts
    | none => none

/-- The groups on one side of a gap. At the margin of an address there are none. -/
def atMargin (parts : List (List Char)) : List (List Char) := if parts = [[]] then [] else parts

/-- Whether parts are eight groups, of which a run may be left out where two colons meet. -/
def areGroups (parts : List (List Char)) : Bool :=
  let inner := (parts.drop 1).dropLast
  match inner.countP List.isEmpty with
  | 0 => parts.length = 8 && parts.all isGroup
  | 1 =>
    let gap := inner.findIdx List.isEmpty + 1
    let before := atMargin (parts.take gap)
    let after := atMargin (parts.drop (gap + 1))
    before.all isGroup && after.all isGroup && before.length + after.length < 8
  | _ => false

/-- Whether a text is an address of eight groups, with or without a zone. -/
def isEightGroups (cs : List Char) : Bool :=
  let (address, zone) := cutAt '%' cs
  let isZone := fun z : List Char => !z.isEmpty && !z.contains '%'
  match groupParts? address with
  | some parts => !cs.contains '/' && zone.all isZone && parts.length ≤ 9 && areGroups parts
  | none => false

/-! ### Hosts -/

/-- The characters that stay as they are in the name of a host. -/
def isKeptInHost (c : Char) : Bool :=
  Percent.isUnreserved c || "!$&'()*+,;=\"\x60\x7b\x7d%|\\".contains c

/-- Whether a text is in square brackets. -/
def isBracketed (cs : List Char) : Bool :=
  cs.head? = some '[' && cs.length ≥ 2 && cs.getLast? = some ']'

/-- The normal form of a host. The brackets around an address are no part of it. Internationalized
names, which are those beyond ASCII, have none. -/
def normalizeHost? (cs : List Char) : Option (List Char) :=
  if isFourNumbers cs then if isFourOctets cs then some cs else none
  else if isBracketed cs then
    let inner := (cs.drop 1).dropLast
    if isEightGroups inner then some inner else none
  else if cs.all fun c => c.toNat < 0x80 then
    some (Percent.encode isKeptInHost (cs.map Char.toLower))
  else none

end PersistedDocument.Url
