import PagedFilter.Json.Decode
import PagedFilter.Table.Context

/-!
Settings of paging: how long a page is by default and at most, whether columns are renamed to snake
case, and whether date-time strings in filters are read as dates.
-/

namespace PagedFilter.Page

structure Config where
  defaultLimit : UInt64
  maxLimit : Option UInt64
  renameColumns : Bool
  castDates : Bool
  deriving DecidableEq, Repr

inductive ConfigError where
  | zeroDefault
  | zeroMax
  | maxBelowDefault (max default_ : UInt64)
  deriving DecidableEq, Repr

def ConfigError.message : ConfigError → String
  | zeroDefault => "Invalid configuration: default_limit must be at least 1"
  | zeroMax => "Invalid configuration: max_limit must be at least 1"
  | maxBelowDefault max default_ =>
    "Invalid configuration: max_limit " ++ toString max.toNat ++ " is below default_limit " ++
      toString default_.toNat

namespace Config

/-- Pages of twenty, no upper bound, columns as they are, dates read. -/
def default : Config := ⟨20, none, false, true⟩

/-- A count in decimal digits, with an optional plus sign, that fits 64 bits. -/
def readCount? (s : String) : Option UInt64 :=
  let ds := match s.toList with
    | '+' :: ds => ds
    | ds => ds
  let n : Nat := ds.foldl (fun n c => 10 * n + (c.toNat - 48)) 0
  if ds.isEmpty || !ds.all Char.isDigit || decide (2 ^ 64 ≤ n) then none else some (UInt64.ofNat n)

def readFlag? (s : String) : Option Bool :=
  if s = "true" then some true else if s = "false" then some false else none

/-- Settings from named texts. One that is missing or cannot be read stays at its default. -/
def ofSettings (setting : String → Option String) : Config :=
  { defaultLimit := ((setting "DEFAULT_LIMIT").bind readCount?).getD default.defaultLimit
    maxLimit := ((setting "MAX_LIMIT").bind readCount?) <|> default.maxLimit
    renameColumns := ((setting "CASE_CONVERT").bind readFlag?).getD default.renameColumns
    castDates := ((setting "CAST_DATES").bind readFlag?).getD default.castDates }

/-- The first reason for which no request could be paged, if there is one. -/
def fault? (cfg : Config) : Option ConfigError :=
  if cfg.defaultLimit = 0 then some .zeroDefault
  else
    match cfg.maxLimit with
    | none => none
    | some max =>
      if max = 0 then some .zeroMax
      else if max < cfg.defaultLimit then some (.maxBelowDefault max cfg.defaultLimit)
      else none

def validate (cfg : Config) : Except ConfigError Config :=
  match cfg.fault? with
  | some e => .error e
  | none => .ok cfg

/-- The length of a page for a requested one. A missing length is the default one, read as a signed
integer; a length below one counts as one, and so does an upper bound. -/
def resolveLimit (cfg : Config) (requested : Option Int64) : UInt64 :=
  let wanted := requested.getD cfg.defaultLimit.toInt64
  let limit := if wanted < 1 then 1 else wanted.toUInt64
  match cfg.maxLimit with
  | none => limit
  | some max => min limit (if max = 0 then 1 else max)

def context (cfg : Config) : Table.Context := Table.Context.default.withSnakeCase cfg.renameColumns

def fields : List Json.RecordField :=
  [.of "default_limit" Json.word false, .of "max_limit" (Json.optional Json.word) false,
    .of "case_convert" Json.boolean false, .of "cast_dates" Json.boolean false]

def decode : Json.Decoder Config := fun j => do
  let members ← Json.recordMembers "PaginationConfig" fields j
  .ok
    { defaultLimit := ← Json.required members "default_limit" Json.word
      maxLimit := ← Json.defaulted members "max_limit" (Json.optional Json.word) none
      renameColumns := ← Json.required members "case_convert" Json.boolean
      castDates := ← Json.required members "cast_dates" Json.boolean }

def toJson (cfg : Config) : Json :=
  .object
    [("default_limit", .int cfg.defaultLimit.toNat),
      ("max_limit", (cfg.maxLimit.map fun n => Json.int n.toNat).getD .null),
      ("case_convert", .bool cfg.renameColumns), ("cast_dates", .bool cfg.castDates)]

example : default.fault? = none := rfl

example : default.resolveLimit none = 20 := by decide

example : default.resolveLimit (some (-7)) = 1 := by decide

example :
    ({ default with maxLimit := some 25 } : Config).resolveLimit (some 50) = 25 := by decide

end Config

end PagedFilter.Page
