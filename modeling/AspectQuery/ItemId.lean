import AspectQuery.Json.Reader
import AspectQuery.Json.Writer
/-!
# Item ids

An item id is a UUID: 32 hexadecimal digits. It is written in lower case in five groups and read
back in any letter case, with or without the hyphens, and with hyphens also in braces or after
`urn:uuid:`. Reading what was written gives the same id.
-/

set_option autoImplicit false

namespace AspectQuery

structure ItemId where
  digits : List (Fin 16)
  length_eq : digits.length = 32
  deriving DecidableEq

namespace ItemId

def digitChar (d : Fin 16) : Char := Json.hexDigit d.val

def digitOf? (c : Char) : Option (Fin 16) :=
  (Json.hexDigit? c).bind fun n => if h : n < 16 then some ⟨n, h⟩ else none

/-- Puts a hyphen after each group. -/
def grouped : List Nat → List Char → List Char
  | [], cs => cs
  | n :: sizes, cs => cs.take n ++ '-' :: grouped sizes (cs.drop n)

/-- Takes away the hyphen after each group; nothing where one is missing. -/
def ungrouped? : List Nat → List Char → Option (List Char)
  | [], cs => some cs
  | n :: sizes, cs =>
    match cs.drop n with
    | '-' :: rest => (ungrouped? sizes rest).map (cs.take n ++ ·)
    | _ => none

/-- The sizes of all groups but the last. -/
def groupSizes : List Nat := [8, 4, 4, 4]

def text (id : ItemId) : String :=
  String.ofList (grouped groupSizes (id.digits.map digitChar))

def ofDigits? (ds : List (Fin 16)) : Option ItemId :=
  if h : ds.length = 32 then some ⟨ds, h⟩ else none

def ofHexChars? (cs : List Char) : Option ItemId :=
  (cs.mapM digitOf?).bind ofDigits?

def ofHyphenated? (cs : List Char) : Option ItemId :=
  (ungrouped? groupSizes cs).bind ofHexChars?

def urnScheme : List Char := "urn:uuid:".toList

/-- The form is told from the number of characters. -/
def ofChars? (cs : List Char) : Option ItemId :=
  match cs.length with
  | 32 => ofHexChars? cs
  | 36 => ofHyphenated? cs
  | 38 =>
    if cs.head? = some '\x7b' ∧ cs.getLast? = some '\x7d' then ofHyphenated? (cs.drop 1).dropLast
    else none
  | 45 =>
    if (cs.take 9).map Char.toLower = urnScheme then ofHyphenated? (cs.drop 9) else none
  | _ => none

def ofText? (s : String) : Option ItemId := ofChars? s.toList

/-- The id whose digits are the halves of 16 bytes. -/
def ofBytes? (bytes : List UInt8) : Option ItemId :=
  ofDigits? (bytes.flatMap fun b =>
    [⟨b.toNat / 16 % 16, Nat.mod_lt _ (by decide)⟩, ⟨b.toNat % 16, Nat.mod_lt _ (by decide)⟩])

theorem digitOf?_digitChar (d : Fin 16) : digitOf? (digitChar d) = some d := by
  revert d
  decide

theorem mapM_digitOf?_map_digitChar (ds : List (Fin 16)) :
    (ds.map digitChar).mapM digitOf? = some ds := by
  induction ds with
  | nil => rfl
  | cons d rest ih => simp [List.mapM_cons, digitOf?_digitChar, ih]

theorem ungrouped?_grouped (sizes : List Nat) (cs : List Char)
    (h : sizes.foldr Nat.add 0 ≤ cs.length) : ungrouped? sizes (grouped sizes cs) = some cs := by
  induction sizes generalizing cs with
  | nil => rfl
  | cons n sizes ih =>
    simp only [List.foldr_cons, Nat.add_eq] at h
    have hn : n ≤ cs.length := by omega
    have hdrop : (cs.take n ++ '-' :: grouped sizes (cs.drop n)).drop n =
        '-' :: grouped sizes (cs.drop n) := by
      simp [hn]
    have htake : (cs.take n ++ '-' :: grouped sizes (cs.drop n)).take n = cs.take n := by
      simp [hn]
    have hrest := ih (cs.drop n) (by simp only [List.length_drop]; omega)
    simp only [grouped, ungrouped?, hdrop, htake, hrest, Option.map_some, List.take_append_drop]

theorem length_grouped (sizes : List Nat) (cs : List Char) (h : sizes.foldr Nat.add 0 ≤ cs.length) :
    (grouped sizes cs).length = cs.length + sizes.length := by
  induction sizes generalizing cs with
  | nil => rfl
  | cons n sizes ih =>
    simp only [List.foldr_cons, Nat.add_eq] at h
    have hrest := ih (cs.drop n) (by simp only [List.length_drop]; omega)
    simp only [grouped, List.length_append, List.length_take, List.length_cons, hrest,
      List.length_drop]
    omega

theorem ofText?_text (id : ItemId) : ofText? id.text = some id := by
  obtain ⟨ds, hlen⟩ := id
  have hsum : groupSizes.foldr Nat.add 0 ≤ (ds.map digitChar).length := by simp [hlen, groupSizes]
  have hlength := length_grouped groupSizes (ds.map digitChar) hsum
  simp only [List.length_map, hlen] at hlength
  have h36 : (grouped groupSizes (ds.map digitChar)).length = 36 := hlength
  simp only [ofText?, text, String.toList_ofList, ofChars?, h36, ofHyphenated?,
    ungrouped?_grouped _ _ hsum, Option.bind_some, ofHexChars?, mapM_digitOf?_map_digitChar,
    ofDigits?, hlen, dif_pos]

end ItemId

end AspectQuery
