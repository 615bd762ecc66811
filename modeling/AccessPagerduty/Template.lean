/-
# `AccessPagerduty.Template` — the incident body, from `text/template` to a join

`Bot.buildIncidentBody` renders the incident's text by executing a Go
`text/template` parsed once at start-up (bot.go:331–340):

    {{.User}} requested permissions for roles {{range $index, $element := .Roles}}{{if $index}}, {{end}}{{ . }}{{end}} on Teleport at {{.Created.Format .TimeFormat}}. To approve or deny the request, please use Special Actions on this incident.

The separators come from `{{if $index}}, {{end}}`: a comma before every role
but the first.  Whether that loop is the same thing as joining the roles with
`", "` is a statement about every role list, and this module proves it
against an interpreter for the part of `text/template` the template uses.

## The interpreter

`Node` is Go's parse tree (`parse.ListNode` written as a right-nested `seq`),
`exec` its execution, following `text/template/exec.go`: text is copied, an
action prints its pipeline's value, `if` tests Go truth (`isTrue`), and
`range` over a slice binds `$index` and `$element`, sets the dot to the
element, and runs its `else` branch on an empty slice.  Field chains walk the
data; the last link may be the method `time.Time.Format`, the one method the
template calls.  The data is the anonymous struct `buildIncidentBody` builds,
with the fields of the embedded `RequestData` promoted, as Go resolves them.

`time.Time.Format` itself is not modelled: every statement here holds for
every formatting function.
-/
import AccessPagerduty.Basic
import Mathlib.Data.String.Basic

namespace AccessPagerduty

/-- A value the template can reach: a string, an int, a `[]string`, a
`time.Time`, or a struct as its fields. -/
inductive Value where
  | string (s : String)
  | int (n : Int)
  | strings (ss : List String)
  | time (t : Time)
  | struct (fields : List (String × Value))

/-- `time.RFC822`. -/
def timeRFC822 : String := "02 Jan 06 15:04 MST"

section Exec

-- Go's `time.Time.Format`, taken as given.
variable (format : Time → String → String)

/-- What `fmt.Fprint` writes for a value (`%v`). -/
def Value.print : Value → String
  | .string s => s
  | .int n => toString n
  | .strings ss => "[" ++ " ".intercalate ss ++ "]"
  | .time t => format t "2006-01-02 15:04:05.999999999 -0700 MST"
  | .struct fs => "\x7b" ++ " ".intercalate (fs.attach.map fun ⟨(_, v), _⟩ => v.print) ++ "\x7d"
termination_by v => sizeOf v
decreasing_by
  simp_wf
  have := List.sizeOf_lt_of_mem ‹_›
  simp at this
  omega

/-- Go's `isTrue`: the zero value of a type is false, a struct is always true. -/
def Value.isTrue : Value → Bool
  | .string s => s ≠ ""
  | .int n => n ≠ 0
  | .strings ss => !ss.isEmpty
  | .time _ | .struct _ => true

/-- An operand of a command: `.`, a variable `$x`, or a field chain `.A.B`. -/
inductive Operand where
  | dot
  | var (name : String)
  | field (chain : List String)

/-- A template's parse tree. -/
inductive Node where
  | empty
  | seq (first rest : Node)
  | text (s : String)
  /-- `{{cmd args...}}` -/
  | action (cmd : Operand) (args : List Operand)
  /-- `{{if cond}}body{{else}}orElse{{end}}` -/
  | if_ (cond : Operand) (body orElse : Node)
  /-- `{{range $index, $element := over}}body{{else}}orElse{{end}}` -/
  | range (index element : String) (over : Operand) (body orElse : Node)

/-- One link of a field chain (`evalField`): a struct's field, or the method
`Format` of a `time.Time` applied to one string. -/
def evalField (receiver : Value) (name : String) (args : List Value) : Except Error Value :=
  match receiver, args with
  | .struct fs, [] =>
      match fs.lookup name with
      | some v => .ok v
      | none => .error (.errorf s!"can't evaluate field {name}")
  | .struct _, _ :: _ => .error (.errorf s!"{name} has arguments but cannot be invoked as function")
  | .time t, [.string layout] => if name = "Format" then .ok (.string (format t layout))
      else .error (.errorf s!"can't evaluate field {name} in type time.Time")
  | _, _ => .error (.errorf s!"can't evaluate field {name}")

/-- A field chain from `receiver`: the arguments go to the last link only. -/
def evalFieldChain (receiver : Value) (args : List Value) : List String → Except Error Value
  | [] => .ok receiver
  | [name] => evalField format receiver name args
  | name :: rest => do evalFieldChain (← evalField format receiver name []) args rest

/-- An operand's value, with `dot` and the variables in scope (innermost first). -/
def evalOperand (vars : List (String × Value)) (dot : Value) (args : List Value) :
    Operand → Except Error Value
  | .dot => if args.isEmpty then .ok dot else .error (.errorf "can't give argument to non-function")
  | .var name =>
      if args.isEmpty then
        match vars.lookup name with
        | some v => .ok v
        | none => .error (.errorf s!"undefined variable: {name}")
      else .error (.errorf s!"can't give argument to non-function {name}")
  | .field chain => evalFieldChain format dot args chain

/-- The output of a `range` body run once per element, from index `k`. -/
def execRange (run : Nat → String → Except Error String) : Nat → List String → Except Error String
  | _, [] => .ok ""
  | k, s :: ss => do
      let out ← run k s
      let rest ← execRange run (k + 1) ss
      pure (out ++ rest)

/-- `Template.Execute`: the text a node writes. -/
def exec (vars : List (String × Value)) (dot : Value) : Node → Except Error String
  | .empty => .ok ""
  | .seq first rest => do
      let a ← exec vars dot first
      let b ← exec vars dot rest
      pure (a ++ b)
  | .text s => .ok s
  | .action cmd args => do
      let argv ← args.mapM (evalOperand format vars dot [])
      let v ← evalOperand format vars dot argv cmd
      pure (v.print format)
  | .if_ cond body orElse => do
      let v ← evalOperand format vars dot [] cond
      if v.isTrue then exec vars dot body else exec vars dot orElse
  | .range index element over body orElse => do
      match ← evalOperand format vars dot [] over with
      | .strings [] => exec vars dot orElse
      | .strings ss =>
          execRange (fun k s =>
            exec ((element, .string s) :: (index, .int k) :: vars) (.string s) body) 0 ss
      | _ => .error (.errorf "range can't iterate over value")

end Exec

/-! ## The incident body -/

/-- The parse tree of `incidentBodyTemplate` (bot.go:334). -/
def incidentBodyTemplate : Node :=
  .seq (.action (.field ["User"]) []) <|
  .seq (.text " requested permissions for roles ") <|
  .seq (.range "$index" "$element" (.field ["Roles"])
    (.seq (.if_ (.var "$index") (.text ", ") .empty) (.action .dot [])) .empty) <|
  .seq (.text " on Teleport at ") <|
  .seq (.action (.field ["Created", "Format"]) [.field ["TimeFormat"]]) <|
  .text ". To approve or deny the request, please use Special Actions on this incident.\n"

/-- The data `buildIncidentBody` executes the template on: the struct of `ID`,
`TimeFormat` and the embedded `RequestData`. -/
def incidentBodyData (reqID : String) (reqData : RequestData) : Value :=
  .struct [("ID", .string reqID), ("TimeFormat", .string timeRFC822),
    ("User", .string reqData.user), ("Roles", .strings reqData.roles),
    ("Created", .time reqData.created)]

/-- `Bot.buildIncidentBody`. -/
def buildIncidentBody (format : Time → String → String) (reqID : String)
    (reqData : RequestData) : Except Error String :=
  exec format [("$", incidentBodyData reqID reqData)] (incidentBodyData reqID reqData)
    incidentBodyTemplate

/-- The incident body as the spec describes it: the roles joined with `", "`. -/
def formatIncidentBody (format : Time → String → String) (reqData : RequestData) : String :=
  reqData.user ++ " requested permissions for roles " ++ ", ".intercalate reqData.roles ++
    " on Teleport at " ++ format reqData.created timeRFC822 ++
    ". To approve or deny the request, please use Special Actions on this incident.\n"

/-! ## The loop is a join

`String.intercalate` accumulates left to right; unfolded it is the first
element followed by every other one with the separator in front, which is
exactly what the loop writes from its second turn on. -/

theorem intercalate_go (sep acc : String) (ss : List String) :
    String.intercalate.go acc sep ss = acc ++ String.join (ss.map (sep ++ ·)) := by
  induction ss generalizing acc with
  | nil => simp [String.intercalate.go, String.ext_iff]
  | cons s ss ih => simp [String.intercalate.go, ih, String.ext_iff]

theorem intercalate_cons (sep s : String) (ss : List String) :
    sep.intercalate (s :: ss) = s ++ String.join (ss.map (sep ++ ·)) :=
  intercalate_go sep s ss

section Body
variable (format : Time → String → String)

/-- One turn of the roles loop: a comma unless `$index` is 0, then the role. -/
theorem exec_roleBody (vars : List (String × Value)) (k : Nat) (s : String) :
    exec format (("$element", .string s) :: ("$index", .int k) :: vars) (.string s)
      (.seq (.if_ (.var "$index") (.text ", ") .empty) (.action .dot [])) =
      .ok ((if k = 0 then "" else ", ") ++ s) := by
  by_cases hk : k = 0 <;>
    simp [exec, evalOperand, Value.isTrue, Value.print, List.lookup_cons, hk, Int.ofNat_eq_zero,
      List.mapM, List.mapM.loop]

/-- From the second turn on, every role comes with its separator. -/
theorem execRange_roles (ss : List String) (k : Nat) :
    execRange (fun k s => .ok ((if k = 0 then "" else ", ") ++ s)) (k + 1) ss =
      .ok (String.join (ss.map (", " ++ ·))) := by
  induction ss generalizing k with
  | nil => rfl
  | cons s ss ih => simp [execRange, ih, String.ext_iff]

/-- The roles loop writes the roles joined with `", "`, for every list. -/
theorem exec_rolesRange (vars : List (String × Value)) (dot : Value) (over : Operand)
    (roles : List String) (h : evalOperand format vars dot [] over = .ok (.strings roles)) :
    exec format vars dot (.range "$index" "$element" over
      (.seq (.if_ (.var "$index") (.text ", ") .empty) (.action .dot [])) .empty) =
      .ok (", ".intercalate roles) := by
  rw [exec]
  simp only [h, ok_bind, exec_roleBody]
  cases roles with
  | nil => rfl
  | cons r rs => simp [execRange, execRange_roles, intercalate_cons]

/-- The template run on the data `buildIncidentBody` builds writes the join. -/
theorem exec_incidentBodyTemplate (reqID : String) (reqData : RequestData) :
    exec format [("$", incidentBodyData reqID reqData)] (incidentBodyData reqID reqData)
      incidentBodyTemplate = .ok (formatIncidentBody format reqData) := by
  have hroles := exec_rolesRange format [("$", incidentBodyData reqID reqData)]
    (incidentBodyData reqID reqData) (.field ["Roles"]) reqData.roles rfl
  simp only [incidentBodyTemplate, exec.eq_2, exec.eq_3, hroles]
  simp [exec, evalOperand, evalFieldChain, evalField, incidentBodyData, List.lookup_cons,
    formatIncidentBody, Value.print, List.mapM, List.mapM.loop, String.ext_iff]

/-- **The template is the join formatter.**  `buildIncidentBody` never fails,
and writes the user, the roles joined with `", "`, and the creation time in
`time.RFC822`, whatever the roles and however the time is formatted. -/
theorem buildIncidentBody_eq_formatIncidentBody (reqID : String) (reqData : RequestData) :
    buildIncidentBody format reqID reqData = .ok (formatIncidentBody format reqData) :=
  exec_incidentBodyTemplate format reqID reqData

end Body

end AccessPagerduty
