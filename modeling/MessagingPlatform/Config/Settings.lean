import MessagingPlatform.Core.NestedMap
import MessagingPlatform.Domain.Errors
import MessagingPlatform.Domain.Instants

/-!
# Configuration from the environment

`internal/config`: compiled defaults, overridden by environment variables.  The
name of a variable is put in lower case and its underscores become dots; koanf
splits the result at the dots, makes a nested map of it, and sets the field at
exactly that path.  Names of fields that have an underscore of their own are
out of reach, and a name that goes on after the path of a field makes the map
unreadable.

The lower case of a rune, the order in which Go ranges over a map, and how
mapstructure reads a text as a number, a duration or a list are parameters.
-/

namespace MessagingPlatform.Settings

open Instants
open Errors
open NestedMap

section Configuration

structure ServerConfig where
  httpPort : ℤ
  grpcPort : ℤ
  deriving DecidableEq, Repr

abbrev GatewayConfig := ServerConfig
abbrev IngestConfig := ServerConfig
abbrev ChatMgmtConfig := ServerConfig

structure FanoutConfig where
  httpPort : ℤ
  deriving DecidableEq, Repr

structure DynamoDBConfig where
  endpoint : String
  timeout : Duration
  deriving DecidableEq, Repr

structure KafkaConfig where
  brokers : List String
  clientID : String
  deriving DecidableEq, Repr

structure RedisConfig where
  addr : String
  password : String
  db : ℤ
  timeout : Duration
  deriving DecidableEq, Repr

structure AWSConfig where
  region : String
  endpoint : String
  deriving DecidableEq, Repr

structure OTELConfig where
  endpoint : String
  serviceName : String
  deriving DecidableEq, Repr

structure Config where
  environment : String
  logLevel : String
  logFormat : String
  gateway : GatewayConfig
  ingest : IngestConfig
  fanout : FanoutConfig
  chatMgmt : ChatMgmtConfig
  dynamoDB : DynamoDBConfig
  kafka : KafkaConfig
  redis : RedisConfig
  aws : AWSConfig
  otel : OTELConfig
  deriving DecidableEq, Repr

def dynamoDBTimeout : Duration := 5 * second
def redisTimeout : Duration := 2 * second

def defaults : Config where
  environment := "local"
  logLevel := "info"
  logFormat := "json"
  gateway := ⟨8080, 9090⟩
  ingest := ⟨8081, 9091⟩
  fanout := ⟨8082⟩
  chatMgmt := ⟨8083, 9093⟩
  dynamoDB := ⟨"", dynamoDBTimeout⟩
  kafka := ⟨[], "messaging-platform"⟩
  redis := ⟨"localhost:6379", "", 0, redisTimeout⟩
  aws := ⟨"us-east-1", ""⟩
  otel := ⟨"", ""⟩

end Configuration

section Leaves

/-- What the leaf fields hold. -/
inductive Kind where
  | text
  | number
  | duration
  | texts
  deriving DecidableEq, Repr

abbrev Kind.Value : Kind → Type
  | .text => String
  | .number => ℤ
  | .duration => Duration
  | .texts => List String

instance : (kind : Kind) → DecidableEq kind.Value
  | .text => inferInstanceAs (DecidableEq String)
  | .number => inferInstanceAs (DecidableEq ℤ)
  | .duration => inferInstanceAs (DecidableEq ℤ)
  | .texts => inferInstanceAs (DecidableEq (List String))

/-- The leaf fields of the configuration. -/
inductive Leaf where
  | environment
  | logLevel
  | logFormat
  | gatewayHTTPPort
  | gatewayGRPCPort
  | ingestHTTPPort
  | ingestGRPCPort
  | fanoutHTTPPort
  | chatMgmtHTTPPort
  | chatMgmtGRPCPort
  | dynamoDBEndpoint
  | dynamoDBTimeout
  | kafkaBrokers
  | kafkaClientID
  | redisAddr
  | redisPassword
  | redisDB
  | redisTimeout
  | awsRegion
  | awsEndpoint
  | otelEndpoint
  | otelServiceName
  deriving DecidableEq, Repr

def leaves : List Leaf :=
  [.environment, .logLevel, .logFormat, .gatewayHTTPPort, .gatewayGRPCPort,
    .ingestHTTPPort, .ingestGRPCPort, .fanoutHTTPPort, .chatMgmtHTTPPort,
    .chatMgmtGRPCPort, .dynamoDBEndpoint, .dynamoDBTimeout, .kafkaBrokers,
    .kafkaClientID, .redisAddr, .redisPassword, .redisDB, .redisTimeout,
    .awsRegion, .awsEndpoint, .otelEndpoint, .otelServiceName]

theorem mem_leaves (leaf : Leaf) : leaf ∈ leaves := by
  cases leaf <;> decide

/-- The koanf tags from the root to the field. -/
def Leaf.path : Leaf → List String
  | .environment => ["environment"]
  | .logLevel => ["log_level"]
  | .logFormat => ["log_format"]
  | .gatewayHTTPPort => ["gateway", "http_port"]
  | .gatewayGRPCPort => ["gateway", "grpc_port"]
  | .ingestHTTPPort => ["ingest", "http_port"]
  | .ingestGRPCPort => ["ingest", "grpc_port"]
  | .fanoutHTTPPort => ["fanout", "http_port"]
  | .chatMgmtHTTPPort => ["chatmgmt", "http_port"]
  | .chatMgmtGRPCPort => ["chatmgmt", "grpc_port"]
  | .dynamoDBEndpoint => ["dynamodb", "endpoint"]
  | .dynamoDBTimeout => ["dynamodb", "timeout"]
  | .kafkaBrokers => ["kafka", "brokers"]
  | .kafkaClientID => ["kafka", "client_id"]
  | .redisAddr => ["redis", "addr"]
  | .redisPassword => ["redis", "password"]
  | .redisDB => ["redis", "db"]
  | .redisTimeout => ["redis", "timeout"]
  | .awsRegion => ["aws", "region"]
  | .awsEndpoint => ["aws", "endpoint"]
  | .otelEndpoint => ["otel", "endpoint"]
  | .otelServiceName => ["otel", "service_name"]

/-- The tags of the fields that are sections. -/
def sectionPaths : List (List String) :=
  [["gateway"], ["ingest"], ["fanout"], ["chatmgmt"], ["dynamodb"],
    ["kafka"], ["redis"], ["aws"], ["otel"]]

def Leaf.kind : Leaf → Kind
  | .environment | .logLevel | .logFormat => .text
  | .gatewayHTTPPort | .gatewayGRPCPort => .number
  | .ingestHTTPPort | .ingestGRPCPort => .number
  | .fanoutHTTPPort => .number
  | .chatMgmtHTTPPort | .chatMgmtGRPCPort => .number
  | .dynamoDBEndpoint => .text
  | .dynamoDBTimeout => .duration
  | .kafkaBrokers => .texts
  | .kafkaClientID => .text
  | .redisAddr | .redisPassword => .text
  | .redisDB => .number
  | .redisTimeout => .duration
  | .awsRegion | .awsEndpoint => .text
  | .otelEndpoint | .otelServiceName => .text

def Config.get (cfg : Config) : (leaf : Leaf) → leaf.kind.Value
  | .environment => cfg.environment
  | .logLevel => cfg.logLevel
  | .logFormat => cfg.logFormat
  | .gatewayHTTPPort => cfg.gateway.httpPort
  | .gatewayGRPCPort => cfg.gateway.grpcPort
  | .ingestHTTPPort => cfg.ingest.httpPort
  | .ingestGRPCPort => cfg.ingest.grpcPort
  | .fanoutHTTPPort => cfg.fanout.httpPort
  | .chatMgmtHTTPPort => cfg.chatMgmt.httpPort
  | .chatMgmtGRPCPort => cfg.chatMgmt.grpcPort
  | .dynamoDBEndpoint => cfg.dynamoDB.endpoint
  | .dynamoDBTimeout => cfg.dynamoDB.timeout
  | .kafkaBrokers => cfg.kafka.brokers
  | .kafkaClientID => cfg.kafka.clientID
  | .redisAddr => cfg.redis.addr
  | .redisPassword => cfg.redis.password
  | .redisDB => cfg.redis.db
  | .redisTimeout => cfg.redis.timeout
  | .awsRegion => cfg.aws.region
  | .awsEndpoint => cfg.aws.endpoint
  | .otelEndpoint => cfg.otel.endpoint
  | .otelServiceName => cfg.otel.serviceName

/-- The configuration with given leaf fields. -/
def ofLeaves (value : (leaf : Leaf) → leaf.kind.Value) : Config where
  environment := value .environment
  logLevel := value .logLevel
  logFormat := value .logFormat
  gateway := ⟨value .gatewayHTTPPort, value .gatewayGRPCPort⟩
  ingest := ⟨value .ingestHTTPPort, value .ingestGRPCPort⟩
  fanout := ⟨value .fanoutHTTPPort⟩
  chatMgmt := ⟨value .chatMgmtHTTPPort, value .chatMgmtGRPCPort⟩
  dynamoDB := ⟨value .dynamoDBEndpoint, value .dynamoDBTimeout⟩
  kafka := ⟨value .kafkaBrokers, value .kafkaClientID⟩
  redis := ⟨value .redisAddr, value .redisPassword, value .redisDB,
    value .redisTimeout⟩
  aws := ⟨value .awsRegion, value .awsEndpoint⟩
  otel := ⟨value .otelEndpoint, value .otelServiceName⟩

@[simp]
theorem get_ofLeaves (value : (leaf : Leaf) → leaf.kind.Value) :
    (ofLeaves value).get = value := by
  funext leaf
  cases leaf <;> rfl

@[simp]
theorem ofLeaves_get (cfg : Config) : ofLeaves cfg.get = cfg := rfl

/-- The leaf fields are all there is. -/
theorem get_injective : Function.Injective Config.get := by
  intro left right heq
  rw [← ofLeaves_get left, heq, ofLeaves_get]

/-- A field is at the top or in a section. -/
theorem path_shape (leaf : Leaf) : (∃ tag, leaf.path = [tag]) ∨
    ∃ part tag, leaf.path = [part, tag] ∧ [part] ∈ sectionPaths := by
  cases leaf
  all_goals first
    | exact Or.inl ⟨_, rfl⟩
    | exact Or.inr ⟨_, _, rfl, by decide⟩

end Leaves

section Loading

/-- What `Load` rests on: `unicode.ToLower`, of which only the ASCII part is
known, the iteration order of a map, and the decoding of a text by
mapstructure. -/
structure Koanf where
  toLower : Char → Char
  order : List (List Char × String) → List (List Char × String)
  decode : (kind : Kind) → String → Option kind.Value
  toLower_ascii : ∀ char, char.toNat < 128 → toLower char = char.toLower
  order_perm : ∀ flat, (order flat).Perm flat

/-- The name transformation of `Load`. -/
def transformed (toLower : Char → Char) (name : String) : List Char :=
  name.toList.map fun char =>
    if toLower char = '_' then '.' else toLower char

/-- `strings.Split(name, ".")`. -/
def splitDots : List Char → List (List Char)
  | [] => [[]]
  | char :: rest =>
      if char = '.' then [] :: splitDots rest
      else (splitDots rest).modifyHead (char :: ·)

def splitPath (key : List Char) : List String :=
  (splitDots key).map String.ofList

/-- The path that a variable is put at. -/
def variablePath (toLower : Char → Char) (name : String) : List String :=
  splitPath (transformed toLower name)

/-- An environment: names and texts. -/
abbrev Environ := List (String × String)

/-- Assigning a key of a map.  The provider leaves out an empty key. -/
def assign (flat : List (List Char × String)) (key : List Char)
    (text : String) : List (List Char × String) :=
  if key = [] then flat
  else flat.filter (fun entry => entry.1 ≠ key) ++ [(key, text)]

variable (koanf : Koanf)

/-- The flat map of `env.Provider`. -/
def flat (environ : Environ) : List (List Char × String) :=
  environ.foldl (fun flat entry =>
    assign flat (transformed koanf.toLower entry.1) entry.2) []

/-- The paths and texts that `maps.Unflatten` goes through. -/
def pathEntries (environ : Environ) : List (List String × String) :=
  (koanf.order (flat koanf environ)).map fun entry =>
    (splitPath entry.1, entry.2)

/-- The node that a path of tags leads to.  A text does not decode as a
section. -/
def nodeAt : Fields String String → List String →
    Option (Option (Node String String))
  | _, [] => some none
  | fields, [tag] => some (fields tag)
  | fields, tag :: next :: rest =>
      match fields tag with
      | some (.leaf _) => none
      | found => nodeAt (inner found) (next :: rest)

/-- What a leaf field becomes.  A map does not decode as one. -/
def decodeField (kind : Kind) (current : kind.Value) :
    Option (Node String String) → Option kind.Value
  | none => some current
  | some (.leaf text) => koanf.decode kind text
  | some (.branch _) => none

def fieldValue (fields : Fields String String) (cfg : Config) (leaf : Leaf) :
    Option leaf.kind.Value :=
  (nodeAt fields leaf.path).bind (decodeField koanf leaf.kind (cfg.get leaf))

/-- `k.Unmarshal("", cfg)`. -/
def unmarshal (fields : Fields String String) (cfg : Config) :
    Option Config :=
  if ∃ leaf ∈ leaves, (fieldValue koanf fields cfg leaf).isNone then none
  else
    some (ofLeaves fun leaf =>
      (fieldValue koanf fields cfg leaf).getD (cfg.get leaf))

def validateRequired (cfg : Config) : Except GoError Unit :=
  if cfg.environment = "local" then .ok ()
  else if cfg.environment = "prod" then
    if cfg.kafka.brokers.length = 0 then
      .error (.errorf "%w: kafka.brokers" [] [.sentinel .errConfigRequired])
    else if cfg.redis.addr = "" then
      .error (.errorf "%w: redis.addr" [] [.sentinel .errConfigRequired])
    else .ok ()
  else .ok ()

def load (environ : Environ) : Except GoError Config :=
  match unmarshal koanf (unflatten (pathEntries koanf environ)) defaults with
  | none =>
      .error (.errorf "unmarshal config: %w" [] [.plain "decoding failed"])
  | some cfg => (validateRequired cfg).map fun _ => cfg

end Loading

section Entries

variable {koanf : Koanf} {environ : Environ}

theorem flat_concat (name text : String) :
    flat koanf (environ ++ [(name, text)]) =
      assign (flat koanf environ) (transformed koanf.toLower name) text := by
  rw [flat, List.foldl_append]
  rfl

theorem mem_assign_iff {entries : List (List Char × String)}
    {key other : List Char} {text found : String} :
    (other, found) ∈ assign entries key text ↔
      if key ≠ [] ∧ other = key then found = text
      else (other, found) ∈ entries := by
  unfold assign
  by_cases hempty : key = []
  · simp [hempty]
  · by_cases hother : other = key
    · simp [hempty, hother]
    · simp [hempty, hother]

/-- What is in the flat map comes from a variable. -/
theorem variable_of_mem_flat {key : List Char} {text : String}
    (hmem : (key, text) ∈ flat koanf environ) :
    ∃ name, (name, text) ∈ environ ∧ transformed koanf.toLower name = key := by
  induction environ using List.reverseRecOn with
  | nil => cases hmem
  | append_singleton earlier last ih =>
      rw [flat_concat, mem_assign_iff] at hmem
      split at hmem
      · next hlast =>
          exact ⟨last.1, by simp [hmem], hlast.2.symm⟩
      · obtain ⟨name, hname, hkey⟩ := ih hmem
        exact ⟨name, List.mem_append_left _ hname, hkey⟩

/-- Every variable is in the flat map, with its text or a later one. -/
theorem exists_mem_flat {name text : String} (hmem : (name, text) ∈ environ)
    (hname : transformed koanf.toLower name ≠ []) :
    ∃ found, (transformed koanf.toLower name, found) ∈ flat koanf environ := by
  induction environ using List.reverseRecOn with
  | nil => cases hmem
  | append_singleton earlier last ih =>
      rw [flat_concat]
      simp only [mem_assign_iff]
      split
      · exact ⟨_, rfl⟩
      · next hother =>
          rcases List.mem_append.mp hmem with hearlier | hlast
          · exact ih hearlier
          · rw [List.mem_singleton] at hlast
            exact absurd ⟨hlast ▸ hname, by rw [← hlast]⟩ hother

theorem variable_of_mem {path : List String} {text : String}
    (hmem : (path, text) ∈ pathEntries koanf environ) :
    ∃ name, (name, text) ∈ environ ∧
      variablePath koanf.toLower name = path := by
  obtain ⟨⟨key, found⟩, hentry, heq⟩ := List.mem_map.mp hmem
  rw [Prod.mk.injEq] at heq
  obtain ⟨rfl, rfl⟩ := heq
  obtain ⟨name, hname, hkey⟩ := variable_of_mem_flat
    ((koanf.order_perm _).mem_iff.mp hentry)
  exact ⟨name, hname, congrArg splitPath hkey⟩

theorem exists_mem_pathEntries {name text : String}
    (hmem : (name, text) ∈ environ)
    (hname : transformed koanf.toLower name ≠ []) :
    ∃ found, (variablePath koanf.toLower name, found) ∈
      pathEntries koanf environ := by
  obtain ⟨found, hfound⟩ := exists_mem_flat hmem hname
  exact ⟨found, List.mem_map.mpr
    ⟨_, (koanf.order_perm _).mem_iff.mpr hfound, rfl⟩⟩

/-- No variable that is a key of its own, or a key right under a section, is
the beginning of another: koanf would go on with the longer name one level
up. -/
def Nests (koanf : Koanf) (environ : Environ) : Prop :=
  ∀ entry ∈ environ,
    (variablePath koanf.toLower entry.1).dropLast ∈ [] :: sectionPaths →
    ∀ other ∈ environ,
      variablePath koanf.toLower entry.1 <+:
        variablePath koanf.toLower other.1 →
      variablePath koanf.toLower other.1 = variablePath koanf.toLower entry.1

instance (koanf : Koanf) (environ : Environ) :
    Decidable (Nests koanf environ) :=
  inferInstanceAs (Decidable (∀ _ ∈ environ, _ → ∀ _ ∈ environ, _ → _))

theorem Nests.eq_nil (hnests : Nests koanf environ) (path : List String)
    {rest : List String} {key text found : String}
    (hpath : path ∈ [] :: sectionPaths)
    (hmem : (path ++ [key], text) ∈ pathEntries koanf environ)
    (hother : (path ++ key :: rest, found) ∈ pathEntries koanf environ) :
    rest = [] := by
  obtain ⟨name, hname, heq⟩ := variable_of_mem hmem
  obtain ⟨longer, hlonger, heq'⟩ := variable_of_mem hother
  have hsame := hnests _ hname (by simpa [heq] using hpath) _ hlonger
  rw [heq, heq'] at hsame
  simpa using hsame (by simp)

/-- A field is looked up among entries that are put apart: all of them, or
those of its section. -/
theorem exists_apart (hnests : Nests koanf environ)
    (hsections : ∀ path ∈ sectionPaths, ∀ text,
      (path, text) ∉ pathEntries koanf environ) (leaf : Leaf) :
    ∃ entries tag, Apart entries ∧
      nodeAt (unflatten (pathEntries koanf environ)) leaf.path =
        some (unflatten entries tag) ∧
      ∀ rest text, (tag :: rest, text) ∈ entries ↔
        (leaf.path ++ rest, text) ∈ pathEntries koanf environ := by
  have hapart : Apart (pathEntries koanf environ) := by
    rintro ⟨path, text⟩ hentry ⟨longer, found⟩ hother key rest rfl rfl
    exact hnests.eq_nil [] List.mem_cons_self hentry hother
  rcases path_shape leaf with ⟨tag, htag⟩ | ⟨part, tag, htag, hpart⟩
  · rw [htag]
    exact ⟨_, tag, hapart, rfl, fun _ _ => Iff.rfl⟩
  · have hplace : ∀ found,
        unflatten (pathEntries koanf environ) part ≠ some (.leaf found) := by
      intro found hfound
      rw [unflatten_apply hapart] at hfound
      exact hsections _ hpart found (mem_of_node_eq_leaf hfound)
    refine ⟨below part (pathEntries koanf environ), tag, ?_, ?_, ?_⟩
    · rintro ⟨path, text⟩ hentry ⟨longer, found⟩ hother key rest rfl rfl
      exact hnests.eq_nil [part] (List.mem_cons_of_mem _ hpart)
        (mem_below.mp hentry) (mem_below.mp hother)
    · rw [htag, nodeAt]
      split
      · next found hfound => exact absurd hfound (hplace found)
      · rw [inner_unflatten (unflatten_apply hapart) hplace]
        rfl
    · intro rest text
      rw [htag]
      exact mem_below

end Entries

section Overrides

/-- The variable that a path is written as: upper case, underscores for the
dots. -/
def Leaf.envName (leaf : Leaf) : String :=
  String.ofList (("_".intercalate leaf.path).toList.map Char.toUpper)

/-- A path of a field. -/
def configPaths : List (List String) := sectionPaths ++ leaves.map Leaf.path

/-- The defaults with one field replaced. -/
def overridden (leaf : Leaf) (value : leaf.kind.Value) : Config :=
  ofLeaves (Function.update defaults.get leaf value)

/-- No tag on the way to the field has an underscore. -/
def Leaf.plain (leaf : Leaf) : Bool :=
  leaf.path.all fun tag => !tag.toList.contains '_'

/-- Lower case is known for ASCII names. -/
theorem variablePath_of_ascii {koanf : Koanf} {name : String}
    (hascii : name.toList.all (·.toNat < 128) = true) :
    variablePath koanf.toLower name = variablePath Char.toLower name := by
  rw [variablePath, variablePath, transformed, transformed]
  congr 1
  refine List.map_congr_left fun char hchar => ?_
  rw [List.all_eq_true] at hascii
  rw [koanf.toLower_ascii char (by simpa using hascii char hchar)]

theorem envName_ascii (leaf : Leaf) :
    leaf.envName.toList.all (·.toNat < 128) = true := by
  cases leaf <;> decide

theorem variablePath_of_plain {leaf : Leaf} (koanf : Koanf)
    (hplain : leaf.plain = true) :
    variablePath koanf.toLower leaf.envName = leaf.path := by
  rw [variablePath_of_ascii (envName_ascii leaf)]
  cases leaf <;> first | decide | cases hplain

/-- The variable of any other field names no field at all. -/
theorem variablePath_of_not_plain {leaf : Leaf} (koanf : Koanf)
    (hplain : leaf.plain = false) :
    variablePath koanf.toLower leaf.envName ∉ configPaths := by
  rw [variablePath_of_ascii (envName_ascii leaf)]
  cases leaf <;> first | decide | cases hplain

theorem path_injective : Function.Injective Leaf.path := by
  intro left right heq
  cases left <;> cases right <;>
    first | rfl | exact absurd heq (by decide)

theorem path_not_mem_sectionPaths (leaf : Leaf) :
    leaf.path ∉ sectionPaths := by
  cases leaf <;> decide

theorem path_mem_configPaths (leaf : Leaf) : leaf.path ∈ configPaths :=
  List.mem_append_right _ (List.mem_map_of_mem (mem_leaves leaf))

/-- A field is overridden and the others are as compiled. -/
theorem eq_overridden_iff {cfg : Config} {leaf : Leaf}
    {value : leaf.kind.Value} :
    cfg = overridden leaf value ↔
      cfg.get leaf = value ∧
        ∀ other, other ≠ leaf → cfg.get other = defaults.get other := by
  constructor
  · rintro rfl
    rw [overridden, get_ofLeaves]
    exact ⟨Function.update_self _ _ _,
      fun other hother => Function.update_of_ne hother _ _⟩
  · rintro ⟨hvalue, hothers⟩
    apply get_injective
    rw [overridden, get_ofLeaves, Function.eq_update_iff]
    exact ⟨hvalue, hothers⟩

variable {koanf : Koanf} {environ : Environ} {leaf : Leaf} {text : String}

/-- One variable of the environment names a path, if any does. -/
structure Sole (koanf : Koanf) (environ : Environ) (leaf : Leaf)
    (text : String) : Prop where
  mem : (leaf.envName, text) ∈ environ
  others : ∀ entry ∈ environ, entry ≠ (leaf.envName, text) →
    variablePath koanf.toLower entry.1 ∉ configPaths

/-- A path goes on after another one. -/
def Extends (longer path : List String) : Prop :=
  path <+: longer ∧ longer ≠ path

instance (longer path : List String) : Decidable (Extends longer path) :=
  inferInstanceAs (Decidable (_ ∧ _))

/-- No variable goes on after the path of a field. -/
def Clear (koanf : Koanf) (environ : Environ) : Prop :=
  ∀ entry ∈ environ, ∀ leaf ∈ leaves,
    ¬ Extends (variablePath koanf.toLower entry.1) leaf.path

instance (koanf : Koanf) (environ : Environ) :
    Decidable (Clear koanf environ) :=
  inferInstanceAs (Decidable (∀ _ ∈ environ, ∀ _ ∈ leaves, _))

theorem unmarshal_eq_some {fields : Fields String String} {cfg : Config}
    {value : (leaf : Leaf) → leaf.kind.Value}
    (hvalue : ∀ leaf, fieldValue koanf fields cfg leaf = some (value leaf)) :
    unmarshal koanf fields cfg = some (ofLeaves value) := by
  simp [unmarshal, hvalue]

theorem unmarshal_eq_none {fields : Fields String String} {cfg : Config}
    (hnone : fieldValue koanf fields cfg leaf = none) :
    unmarshal koanf fields cfg = none :=
  if_pos ⟨leaf, mem_leaves leaf, by rw [hnone]; rfl⟩

/-- An entry at the path of a field or a section is that of the variable. -/
theorem Sole.of_mem (hsole : Sole koanf environ leaf text)
    {path : List String} {found : String} (hpath : path ∈ configPaths)
    (hmem : (path, found) ∈ pathEntries koanf environ) :
    leaf.plain = true ∧ path = leaf.path ∧ found = text := by
  obtain ⟨name, hname, rfl⟩ := variable_of_mem hmem
  have heq : (name, found) = (leaf.envName, text) := by
    by_contra hne
    exact hsole.others _ hname hne hpath
  rw [Prod.mk.injEq] at heq
  obtain ⟨rfl, rfl⟩ := heq
  cases hplain : leaf.plain with
  | true => exact ⟨rfl, variablePath_of_plain koanf hplain, rfl⟩
  | false => exact absurd hpath (variablePath_of_not_plain koanf hplain)

theorem Sole.section_free (hsole : Sole koanf environ leaf text) :
    ∀ path ∈ sectionPaths, ∀ found,
      (path, found) ∉ pathEntries koanf environ := by
  intro path hpath found hmem
  obtain ⟨-, rfl, -⟩ := hsole.of_mem (List.mem_append_left _ hpath) hmem
  exact path_not_mem_sectionPaths leaf hpath

/-- The variable of a field without underscores in its tags is where the field
is looked up. -/
theorem Sole.mem_pathEntries (hsole : Sole koanf environ leaf text)
    (hplain : leaf.plain = true) :
    (leaf.path, text) ∈ pathEntries koanf environ := by
  have hpath := variablePath_of_plain koanf hplain
  have hname : transformed koanf.toLower leaf.envName ≠ [] := by
    intro hempty
    rw [variablePath, hempty] at hpath
    exact absurd hpath (by cases leaf <;> decide)
  obtain ⟨found, hfound⟩ := exists_mem_pathEntries hsole.mem hname
  rw [hpath] at hfound
  obtain ⟨-, -, rfl⟩ := hsole.of_mem (path_mem_configPaths leaf) hfound
  exact hfound

section Fields

variable {other : Leaf} {cfg : Config}

/-- A field that no variable goes to keeps its value. -/
theorem fieldValue_of_absent (hsole : Sole koanf environ leaf text)
    (hnests : Nests koanf environ)
    (habsent : ∀ rest found,
      (other.path ++ rest, found) ∉ pathEntries koanf environ) :
    fieldValue koanf (unflatten (pathEntries koanf environ)) cfg other =
      some (cfg.get other) := by
  obtain ⟨entries, tag, hapart, hnode, hmem⟩ :=
    exists_apart hnests hsole.section_free other
  have hnone : unflatten entries tag = none :=
    unflatten_eq_none hapart fun rest found hfound =>
      habsent rest found ((hmem rest found).mp hfound)
  rw [fieldValue, hnode, Option.bind_some, hnone]
  rfl

/-- The field of the variable takes its text. -/
theorem fieldValue_of_plain (hsole : Sole koanf environ leaf text)
    (hnests : Nests koanf environ) (hplain : leaf.plain = true) :
    fieldValue koanf (unflatten (pathEntries koanf environ)) cfg leaf =
      koanf.decode leaf.kind text := by
  obtain ⟨entries, tag, hapart, hnode, hmem⟩ :=
    exists_apart hnests hsole.section_free leaf
  have hleaf : unflatten entries tag = some (.leaf text) := by
    apply unflatten_eq_leaf hapart
    · rw [hmem, List.append_nil]
      exact hsole.mem_pathEntries hplain
    · intro found hfound
      rw [hmem, List.append_nil] at hfound
      exact (hsole.of_mem (path_mem_configPaths leaf) hfound).2.2
  rw [fieldValue, hnode, Option.bind_some, hleaf]
  rfl

/-- A field whose path goes on in a variable does not decode. -/
theorem fieldValue_of_extended (hsole : Sole koanf environ leaf text)
    (hnests : Nests koanf environ) {key found : String} {rest : List String}
    (hlonger : (other.path ++ key :: rest, found) ∈
      pathEntries koanf environ) :
    fieldValue koanf (unflatten (pathEntries koanf environ)) cfg other =
      none := by
  obtain ⟨entries, tag, hapart, hnode, hmem⟩ :=
    exists_apart hnests hsole.section_free other
  have hbranch := unflatten_eq_branch hapart
    ((hmem (key :: rest) found).mpr hlonger)
  rw [fieldValue, hnode, Option.bind_some, hbranch]
  rfl

end Fields

/-- What the environment makes of the defaults, if it decodes. -/
theorem unmarshal_of_clear {value : leaf.kind.Value}
    (hsole : Sole koanf environ leaf text) (hnests : Nests koanf environ)
    (hclear : Clear koanf environ)
    (hread : koanf.decode leaf.kind text = some value) :
    unmarshal koanf (unflatten (pathEntries koanf environ)) defaults =
      some (overridden leaf
        (if leaf.plain then value else defaults.get leaf)) := by
  apply unmarshal_eq_some
  intro other
  -- Nothing goes on after a path, so only the path itself can be taken.
  have hfree : (other = leaf → leaf.plain = false) → ∀ rest found,
      (other.path ++ rest, found) ∉ pathEntries koanf environ := by
    intro hother rest found hmem
    cases rest with
    | nil =>
        rw [List.append_nil] at hmem
        obtain ⟨hplain, hpath, -⟩ :=
          hsole.of_mem (path_mem_configPaths other) hmem
        rw [hother (path_injective hpath)] at hplain
        cases hplain
    | cons key rest =>
        obtain ⟨name, hname, hpath⟩ := variable_of_mem hmem
        apply hclear _ hname other (mem_leaves other)
        rw [hpath]
        exact ⟨List.prefix_append _ _, by simp⟩
  by_cases hother : other = leaf
  · subst hother
    rw [Function.update_self]
    cases hplain : other.plain with
    | true => rw [fieldValue_of_plain hsole hnests hplain, hread, if_pos rfl]
    | false =>
        rw [fieldValue_of_absent hsole hnests (hfree fun _ => hplain)]
        rfl
  · rw [Function.update_of_ne hother,
      fieldValue_of_absent hsole hnests (hfree fun heq => absurd heq hother)]

/-- An environment with a name that goes on after the path of a field is not
loaded. -/
theorem clear_of_unmarshal {cfg : Config}
    (hsole : Sole koanf environ leaf text) (hnests : Nests koanf environ)
    (hunmarshal : unmarshal koanf (unflatten (pathEntries koanf environ))
      defaults = some cfg) : Clear koanf environ := by
  intro entry hentry other _ hextends
  obtain ⟨⟨rest, hrest⟩, hne⟩ := hextends
  cases rest with
  | nil =>
      rw [List.append_nil] at hrest
      exact hne hrest.symm
  | cons key rest =>
      have hname : transformed koanf.toLower entry.1 ≠ [] := by
        intro hempty
        rw [variablePath, hempty] at hrest
        have hlength := congrArg List.length hrest
        rcases path_shape other with ⟨tag, htag⟩ | ⟨part, tag, htag, -⟩ <;>
          simp [htag, splitPath, splitDots] at hlength
      obtain ⟨found, hfound⟩ := exists_mem_pathEntries hentry hname
      rw [← hrest] at hfound
      rw [unmarshal_eq_none (fieldValue_of_extended hsole hnests hfound)]
        at hunmarshal
      cases hunmarshal

theorem load_eq_ok_iff {cfg : Config} :
    load koanf environ = .ok cfg ↔
      unmarshal koanf (unflatten (pathEntries koanf environ)) defaults =
        some cfg ∧ validateRequired cfg = .ok () := by
  unfold load
  cases unmarshal koanf (unflatten (pathEntries koanf environ)) defaults with
  | none => simp
  | some found =>
      cases hrequired : validateRequired found with
      | error err =>
          simp only [Except.map, hrequired, Option.some.injEq]
          constructor
          · intro heq
            cases heq
          · rintro ⟨rfl, hok⟩
            rw [hrequired] at hok
            cases hok
      | ok done =>
          simp only [Except.map, hrequired, Except.ok.injEq, Option.some.injEq]
          constructor
          · rintro rfl
            exact ⟨rfl, hrequired⟩
          · exact And.left

/-- The weakly typed decoding of a text, with durations in whole seconds. -/
def weakDecode : (kind : Kind) → String → Option kind.Value
  | .text, text => some text
  | .number, text => text.toInt?
  | .duration, text =>
      if text.endsWith "s" then
        (text.dropEnd 1).toInt?.map (· * second)
      else none
  | .texts, text => some [text]

/-- The library with that decoding and maps in the order of insertion. -/
def weakly : Koanf where
  toLower := Char.toLower
  order := id
  decode := weakDecode
  toLower_ascii := fun _ _ => rfl
  order_perm := fun _ => .refl _

/-- It is not beside a variable that goes on after the endpoint of AWS. -/
example : load weakly [("AWS_ENDPOINT_URL", "http://localhost:4566"),
    ("REDIS_ADDR", "redis:6379")] =
      .error (.errorf "unmarshal config: %w" []
        [.plain "decoding failed"]) := by rfl

end Overrides

end MessagingPlatform.Settings
