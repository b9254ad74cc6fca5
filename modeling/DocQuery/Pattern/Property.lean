import DocQuery.Pattern.CharSet
import DocQuery.Unicode.Property

/-! # Properties in patterns

Patterns name the properties of characters loosely: letter case, spaces, hyphens, underscores and
a leading `is` do not count.

* `CharSet.canonicalName` — the name that is looked up.
* `CharSet.property?` — the set of a name, or of a name and a value.
-/

namespace DocQuery.Pattern.CharSet

/-- A name in small letters without spaces, hyphens, underscores and what is not in ASCII. -/
def bareName (name : List Char) : String :=
  let kept := name.filter fun c => c != ' ' && c != '-' && c != '_' && c.toNat < 0x80
  String.ofList (kept.map Char.toLower)

/--
The bare name after a leading `is`. What is left of `isc` would name a category, but the whole is
the name of something else.
-/
def canonicalName (name : List Char) : String :=
  match name with
  | i :: s :: rest =>
    if i.toLower == 'i' && s.toLower == 's' then
      let bare := bareName rest
      if bare == "c" then "isc" else bare
    else bareName name
  | _ => bareName name

/-- The texts around the first place where a separator stands. -/
def cut? (separator : List Char) : List Char → Option (List Char × List Char)
  | [] => none
  | c :: rest =>
    if separator.isPrefixOf (c :: rest) then some ([], (c :: rest).drop separator.length)
    else (cut? separator rest).map fun (front, back) => (c :: front, back)

/--
The set of a property: a name alone, or a name and a value. An unequal sign separates them just as
the other two do.
-/
def property? (text : List Char) : Option CharSet :=
  match cut? ['!', '='] text <|> cut? [':'] text <|> cut? ['='] text with
  | some (name, value) => Unicode.propertyValue? (canonicalName name) (canonicalName value)
  | none => Unicode.property? (canonicalName text)

end DocQuery.Pattern.CharSet
