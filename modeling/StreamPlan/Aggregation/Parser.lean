import StreamPlan.Aggregation.Error
import StreamPlan.Aggregation.Rule
import StreamPlan.Text.Trim

/-! The text of aggregation entries. An entry is a key designator, `key:` with one field or several
in parentheses, or a call `function(field)`; blanks may stand around every mark. -/

set_option autoImplicit false

namespace StreamPlan.Aggregation

open Text (isBlank isName isWordChar trim)

def isEntryChar (c : Char) : Bool :=
  isWordChar c || isBlank c || c == '(' || c == ')' || c == ',' || c == ':'

/-- The field list of a key designator: what follows `key`, blanks and a colon, on one line. -/
def designated? (entry : List Char) : Option (List Char) :=
  match entry with
  | 'k' :: 'e' :: 'y' :: rest =>
    match rest.dropWhile isBlank with
    | ':' :: fields => if fields.contains '\n' then none else some fields
    | _ => none
  | _ => none

def parenthesised? (cs : List Char) : Option (List Char) :=
  match cs with
  | '(' :: rest => if rest.getLast? = some ')' then some rest.dropLast else none
  | _ => none

def keyNames (fields : List Char) : List String :=
  match parenthesised? fields with
  | some inner => (inner.splitOn ',').map fun piece => trim (String.ofList piece)
  | none => [String.ofList fields]

def keyFields (entry : String) (fields : List Char) : Except RuleError (List String) :=
  let fields := (trim (String.ofList fields)).toList
  let opening := fields.count '('
  let closing := fields.count ')'
  if opening ≠ closing then .error (.unbalancedParentheses entry opening closing)
  else
    let names := keyNames fields
    if names.all isName then .ok names else .error (.malformedEntry entry)

def leadingCall? (cs : List Char) : Option (String × String × List Char) :=
  let function := cs.takeWhile isWordChar
  match (cs.dropWhile isWordChar).dropWhile isBlank with
  | '(' :: rest =>
    let inner := rest.dropWhile isBlank
    let field := inner.takeWhile isWordChar
    match (inner.dropWhile isWordChar).dropWhile isBlank with
    | ')' :: rest =>
      if function.isEmpty || field.isEmpty then none
      else some (String.ofList function, String.ofList field, rest)
    | _ => none
  | _ => none

def containsCall : List Char → Bool
  | [] => false
  | c :: rest => (leadingCall? (c :: rest)).isSome || containsCall rest

def callEntry (entry : String) : Except RuleError Entry :=
  match leadingCall? entry.toList with
  | some (function, field, []) => .ok (.aggregate function field)
  | _ =>
    if containsCall entry.toList then .error (.ambiguousEntry entry)
    else .error (.malformedEntry entry)

def parseEntry (text : String) : Except RuleError (Bool × List Entry) :=
  let entry := trim text
  match designated? entry.toList with
  | some fields => (keyFields entry fields).map fun names => (true, names.map Entry.key)
  | none => (callEntry entry).map fun aggregation => (false, [aggregation])

def ruleOperation (name : String) : Except RuleError Operation :=
  match Operation.ofName? (trim name) with
  | some .reduce => .ok .reduce
  | some .reduceByKey => .ok .reduceByKey
  | _ => .error (.unsupportedOperation name)

def designatorCount (operation : Operation) : Nat := if operation.requiresKey then 1 else 0

def checkDesignators (operation : Operation) (count : Nat) : Except RuleError Unit :=
  if designatorCount operation < count then .error (.keyNotUnique operation)
  else if count < designatorCount operation then .error (.missingKey operation)
  else .ok ()

-- The rule that an operation and a list of entries spell out. All characters are looked at first,
-- then the operation, the entries one by one, and last the number of key designators.
def Rule.parse (operation : String) (entries : List String) : Except RuleError Rule :=
  match entries.find? fun entry => !entry.toList.all isEntryChar with
  | some entry => .error (.invalidCharacters (trim entry))
  | none => do
    let operation ← ruleOperation operation
    let parsed ← entries.mapM parseEntry
    checkDesignators operation (parsed.countP (·.1))
    .ok ⟨operation, parsed.flatMap (·.2)⟩

end StreamPlan.Aggregation
