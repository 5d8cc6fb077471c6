/-!
# Field types

The types a field of a table may have. Four of them are computed from other fields; of the others the compiler needs
to know only which ones link records and which ones hold numbers.
-/

namespace ComputedFields

/-- What a field holds. -/
inductive FieldType where
  | singleLineText
  | multilineText
  | richText
  | email
  | url
  | phoneNumber
  | number
  | currency
  | percent
  | duration
  | rating
  | checkbox
  | date
  | dateTime
  | singleSelect
  | multipleSelects
  | multipleAttachments
  | multipleRecordLinks
  | formula
  | multipleLookupValues
  | rollup
  | count
  | autoNumber
  | createdTime
  | lastModifiedTime
  | createdBy
  | lastModifiedBy
  | barcode
  | button
  /-- Any type the compiler does not know. -/
  | other
deriving DecidableEq, Repr

/-- The four ways a field is computed. -/
inductive ComputedKind where
  | formula
  | lookup
  | rollup
  | count
deriving DecidableEq, Repr

namespace FieldType

/-- Every type but the unknown one. -/
def known : List FieldType :=
  [singleLineText, multilineText, richText, email, url, phoneNumber, number, currency, percent, duration, rating,
    checkbox, date, dateTime, singleSelect, multipleSelects, multipleAttachments, multipleRecordLinks, formula,
    multipleLookupValues, rollup, count, autoNumber, createdTime, lastModifiedTime, createdBy, lastModifiedBy, barcode,
    button]

/-- The name a schema uses for the type. -/
def name : FieldType → String
  | singleLineText => "singleLineText"
  | multilineText => "multilineText"
  | richText => "richText"
  | email => "email"
  | url => "url"
  | phoneNumber => "phoneNumber"
  | number => "number"
  | currency => "currency"
  | percent => "percent"
  | duration => "duration"
  | rating => "rating"
  | checkbox => "checkbox"
  | date => "date"
  | dateTime => "dateTime"
  | singleSelect => "singleSelect"
  | multipleSelects => "multipleSelects"
  | multipleAttachments => "multipleAttachments"
  | multipleRecordLinks => "multipleRecordLinks"
  | formula => "formula"
  | multipleLookupValues => "multipleLookupValues"
  | rollup => "rollup"
  | count => "count"
  | autoNumber => "autoNumber"
  | createdTime => "createdTime"
  | lastModifiedTime => "lastModifiedTime"
  | createdBy => "createdBy"
  | lastModifiedBy => "lastModifiedBy"
  | barcode => "barcode"
  | button => "button"
  | other => "other"

/-- The type with a given name. Links and lookups have a short name too, and unknown names are an unknown type. -/
def ofName (s : String) : FieldType :=
  if s = "link" then multipleRecordLinks
  else if s = "lookup" then multipleLookupValues
  else (known.find? (·.name == s)).getD other

def computedKind? : FieldType → Option ComputedKind
  | formula => some .formula
  | multipleLookupValues => some .lookup
  | rollup => some .rollup
  | count => some .count
  | _ => none

def isComputed (t : FieldType) : Bool := t.computedKind?.isSome

/-- Whether values are records of another table. -/
def isLink (t : FieldType) : Bool := t == multipleRecordLinks

def isNumeric : FieldType → Bool
  | number | currency | percent | duration | rating | autoNumber | count => true
  | _ => false

end FieldType

end ComputedFields
