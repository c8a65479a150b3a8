import SceneHub.Node.Channels

/-!
# Command Messages

What the node reads out of a message on its command topic: `node_mqtt_json.c`,
and the parsers of `node_mqtt_command.c`.

A text is a C string with one character for every byte. The parsers look for a
key anywhere in the payload. One that fails leaves in its buffer what it had
copied by then, and the buffer is sent back with the refusal.

## Main definitions

* `jsonExtractString`, `jsonCopyObject`: The value behind a key.
* `CommandMessage`: A parsed message.
* `parseCommandPayload`, `parseAdminCommandPayload`: The parsers.

## Theorems

* `parsePayload_texts`: The texts of a valid message are there, and they fit.
-/

namespace SceneHub.Node

/-! ### Values behind keys -/

/-- The text behind the first occurrence of a text: `strstr`. -/
def strstr (text : List Char) : List Char → Option (List Char)
  | [] => if text = [] then some [] else none
  | c :: rest =>
    if text.isPrefixOf (c :: rest) then some ((c :: rest).drop text.length) else strstr text rest

/-- Where the value of a key starts, behind the next colon and the blanks. -/
def valueOf (key : String) (json : List Char) : Option (List Char) :=
  match strstr ('"' :: key.toList ++ ['"']) json with
  | none => none
  | some rest =>
    match rest.dropWhile (· ≠ ':') with
    | [] => none
    | _ :: value => some (value.dropWhile fun c => c = ' ' ∨ c = '\t' ∨ c = '\r' ∨ c = '\n')

/-- Copy up to the closing quote. A backslash and a text that does not fit end
    the copy. -/
def copyString (outSize : Nat) (out : List Char) : List Char → Bool × List Char
  | [] => (false, out)
  | c :: rest =>
    if c = '"' then (0 < out.length, out)
    else if c = '\\' ∨ outSize ≤ out.length + 1 then (false, out)
    else copyString outSize (out ++ [c]) rest

def jsonExtractString (json : List Char) (key : String) (outSize : Nat) : Bool × List Char :=
  match valueOf key json with
  | some ('"' :: rest) => copyString outSize [] rest
  | _ => (false, [])

/-- Copy up to the brace that closes the first one. -/
def copyBraces (outSize : Nat) (depth : Int) (inString escaped : Bool) (out : List Char) :
    List Char → Bool × List Char
  | [] => (false, out)
  | c :: rest =>
    if outSize ≤ out.length + 1 then (false, out)
    else
      let out := out ++ [c]
      if inString then
        if escaped then copyBraces outSize depth true false out rest
        else if c = '\\' then copyBraces outSize depth true true out rest
        else copyBraces outSize depth (c ≠ '"') false out rest
      else if c = '"' then copyBraces outSize depth true escaped out rest
      else if c = '{' then copyBraces outSize (depth + 1) false escaped out rest
      else if c = '}' then
        if depth - 1 = 0 then (true, out)
        else copyBraces outSize (depth - 1) false escaped out rest
      else copyBraces outSize depth false escaped out rest

/-- `node_mqtt_json_copy_object`. A missing key gives the empty object. -/
def jsonCopyObject (json : List Char) (key : String) (outSize : Nat) : Bool × List Char :=
  match valueOf key json with
  | none => (true, ['{', '}'])
  | some ('{' :: rest) => copyBraces outSize 0 false false [] ('{' :: rest)
  | some _ => (false, [])

/-! ### Messages -/

def mqttPayloadMax : Nat := 14336

def mqttRequestIdMax : Nat := 48

def mqttCommandMax : Nat := 64

def mqttArgsMax : Nat := 1024

def ruleBundleMqttMaxLen : Nat := 8192

def mqttAdminArgsMax : Nat := ruleBundleMqttMaxLen + 256

/-- `node_mqtt_command_message_t` and `node_mqtt_admin_message_t`, which differ
    in the room for the arguments. -/
structure CommandMessage where
  valid : Bool := false
  requestId : String := ""
  command : String := ""
  argsJson : String := ""
  deriving DecidableEq, Repr

/-- Both parsers. A part that is missing leaves the parts behind it empty. -/
def parsePayload (argsMax : Nat) (payload : List Char) : CommandMessage :=
  let requestId := jsonExtractString payload "request_id" mqttRequestIdMax
  if !requestId.1 then { requestId := .ofList requestId.2 }
  else
    let command := jsonExtractString payload "command" mqttCommandMax
    if !command.1 then { requestId := .ofList requestId.2, command := .ofList command.2 }
    else
      let args := jsonCopyObject payload "args" argsMax
      { valid := args.1
        requestId := .ofList requestId.2
        command := .ofList command.2
        argsJson := .ofList args.2 }

def parseCommandPayload (payload : List Char) : CommandMessage := parsePayload mqttArgsMax payload

def parseAdminCommandPayload (payload : List Char) : CommandMessage :=
  parsePayload mqttAdminArgsMax payload

def commandIsAdmin (command : String) : Bool :=
  startsWith command "node.rules." || command = "node.reboot" || command = "node.nfc.reinit"

/-! ### What is extracted -/

theorem copyString_length {outSize : Nat} {out rest : List Char} (hout : out.length < outSize)
    (h : (copyString outSize out rest).1) : 0 < (copyString outSize out rest).2.length ∧
      (copyString outSize out rest).2.length < outSize := by
  induction rest generalizing out with
  | nil => cases h
  | cons c rest ih =>
    unfold copyString at h ⊢
    split
    · rename_i hquote
      rw [if_pos hquote] at h
      exact ⟨of_decide_eq_true h, hout⟩
    rename_i hquote
    rw [if_neg hquote] at h
    split
    · rename_i hstop
      rw [if_pos hstop] at h
      cases h
    rename_i hstop
    rw [if_neg hstop] at h
    have hroom : ¬outSize ≤ out.length + 1 := fun hle => hstop (.inr hle)
    refine ih ?_ h
    rw [List.length_append, List.length_singleton]
    omega

/-- A text that was extracted is not empty, and it fits. -/
theorem jsonExtractString_length {json : List Char} {key : String} {outSize : Nat}
    (hsize : 0 < outSize) (h : (jsonExtractString json key outSize).1) :
    0 < (jsonExtractString json key outSize).2.length ∧
      (jsonExtractString json key outSize).2.length < outSize := by
  unfold jsonExtractString at h ⊢
  split
  · rename_i rest hvalue
    rw [hvalue] at h
    exact copyString_length hsize h
  rename_i hvalue
  split at h
  · rename_i rest hquote
    exact absurd hquote (hvalue rest)
  · cases h

theorem parsePayload_texts {argsMax : Nat} {payload : List Char}
    (h : (parsePayload argsMax payload).valid) : ((parsePayload argsMax payload).requestId ≠ "" ∧
      (parsePayload argsMax payload).requestId.length < mqttRequestIdMax) ∧
    (parsePayload argsMax payload).command.length < mqttCommandMax := by
  unfold parsePayload at h ⊢
  by_cases hid : (jsonExtractString payload "request_id" mqttRequestIdMax).1 = true
  · by_cases hcommand : (jsonExtractString payload "command" mqttCommandMax).1 = true
    · simp only [hid, hcommand, Bool.not_true, Bool.false_eq_true, if_false] at h ⊢
      have hidLength := jsonExtractString_length (by decide) hid
      have hcommandLength := jsonExtractString_length (by decide) hcommand
      refine ⟨⟨?_, ?_⟩, ?_⟩
      · intro hempty
        have hnil := String.ofList_injective (hempty.trans String.ofList_nil.symm)
        rw [hnil, List.length_nil] at hidLength
        exact Nat.lt_irrefl 0 hidLength.1
      · rw [String.length_ofList]
        exact hidLength.2
      · rw [String.length_ofList]
        exact hcommandLength.2
    · simp only [hid, hcommand, Bool.not_true, Bool.not_false, Bool.false_eq_true, if_false,
        if_true] at h
  · simp only [hid, Bool.not_false, if_true, Bool.false_eq_true] at h

end SceneHub.Node
