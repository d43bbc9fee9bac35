import MarkedRoutes.Proofs.Generated.Writability
import MarkedRoutes.Proofs.Source.LiteralValues

/-!
# Reading printed programs back

The tokens of a generated program tell what it does.  Read from the tokens, a dispatch function
has the steps that were printed, in their order, with the call of its handler and the way it
answers, and a registration function has the statements that were printed.  Only paths are known
by no more than their tokens.
-/

namespace MarkedRoutes

open MarkedRoutes.Source

/-! ### What tokens tell -/

/-- A step as tokens tell it.  A converter is known by the tokens of its path. -/
inductive ToldStep where
  | provide (target : String)
  | convert (target : String) (source : TextSource) (key : String)
      (converter : Option (List Token)) (isRequired : Bool)
  | context (target : String)
  | receive (target : String)

/-- A dispatch function as tokens tell it. -/
structure ToldDispatch where
  name : String
  steps : List ToldStep
  handler : List Token
  arguments : List String
  isAsync : Bool
  returns : ReturnShape

inductive ToldItem where
  | dispatch (function : ToldDispatch)
  | registration (name : String) (calls : List RegistrationCall)

section

variable [SourceParser]

def TextConverter.told : TextConverter → Except NameFault (Option (List Token))
  | .registered => .ok none
  | .named path => (pathTokens path).map some

def Step.told : Step → Except NameFault ToldStep
  | .provide target => .ok (.provide target)
  | .convert target source key converter isRequired =>
    converter.told.map fun tokens => .convert target source key tokens isRequired
  | .context target => .ok (.context target)
  | .receive target => .ok (.receive target)

def DispatchFunction.told (function : DispatchFunction) : Except NameFault ToldDispatch := do
  let steps ← function.steps.mapM Step.told
  let handler ← pathTokens function.handlerPath
  .ok ⟨function.name, steps, handler, function.arguments, function.isAsync, function.returns⟩

def GeneratedItem.told : GeneratedItem → Except NameFault ToldItem
  | .dispatch function => function.told.map .dispatch
  | .registration function => .ok (.registration function.name function.calls)

/-- A program as tokens tell it: the entry point is a registration function. -/
def GeneratedProgram.told (program : GeneratedProgram) : Except NameFault (List ToldItem) := do
  let items ← program.items.mapM GeneratedItem.told
  .ok (.registration program.entry (program.calls.map RegistrationCall.group) :: items)

end

/-! ### Reading tokens -/

/-- Whether a token ends a statement. -/
def isSemicolon : Token → Bool
  | .punct ';' _ => true
  | _ => false

def isBlock : Token → Bool
  | .group .brace _ => true
  | _ => false

def isGroup : Token → Bool
  | .group .. => true
  | _ => false

def nameOf? : Token → Option String
  | .ident name _ => some name
  | _ => none

/-- The statements of a body, and what stands behind the last of them. -/
def statementsOf (body : List Token) : List (List Token) := body.splitOnP isSemicolon

/-- The last call in a value: the name of the function and the arguments. -/
def lastCall? (value : List Token) : Option (String × List Token) :=
  match value.reverse.dropWhile fun token => !isGroup token with
  | .group _ arguments :: .ident name _ :: _ => some (name, arguments)
  | _ => none

/-- The source whose texts an accessor looks up. -/
def TextSource.ofAccessor? (accessor : String) : Option TextSource :=
  [TextSource.path, .query, .header].find? fun source => source.names.1 = accessor

/-- Reads the arguments of a conversion from their end.  Where the value is required, its key and
source stand behind the text. -/
def readConversion (runtime : List Token) (target : String) (isNamed isRequired : Bool)
    (arguments : List Token) : Option ToldStep :=
  match arguments.reverse.drop (if isRequired then runtime.length + 12 else 0) with
  | .group _ [.literal key] :: .ident accessor _ :: _ :: _ :: _ :: converter => do
    let source ← TextSource.ofAccessor? accessor
    let key ← Literal.stringValue? key
    let path := if isNamed then some (converter.reverse.drop 1) else none
    some (.convert target source key path isRequired)
  | _ => none

/-- Reads the value of a step from the function that it calls last. -/
def readValue (runtime : List Token) (target name : String) (arguments : List Token) :
    Option ToldStep :=
  if name = "provide" then some (.provide target)
  else if name = "receive" then some (.receive target)
  else if name = "convert_param" then readConversion runtime target false true arguments
  else if name = "convert_optional_param" then readConversion runtime target false false arguments
  else if name = "convert_param_with" then readConversion runtime target true true arguments
  else if name = "convert_optional_param_with" then
    readConversion runtime target true false arguments
  else none

def readStep (runtime : List Token) : List Token → Option ToldStep
  | _ :: .ident target _ :: _ :: value =>
    match lastCall? value with
    | none => some (.context target)
    | some (name, arguments) => readValue runtime target name arguments
  | _ => none

/-- Whether a handler call hands its failure on, and the rest of it, from its end. -/
def readHandedOn : List Token → Bool × List Token
  | .punct '?' _ :: _ :: _ :: _ :: rest => (true, rest)
  | rest => (false, rest)

/-- Whether a handler call is awaited, and the rest of it, from its end. -/
def readAwaited : List Token → Bool × List Token
  | .ident "await" _ :: _ :: rest => (true, rest)
  | rest => (false, rest)

/-- Reads the call of a handler: the tokens of its path, the arguments, and whether the call is
awaited and hands its failure on. -/
def readHandlerCall (called : List Token) : Option (List Token × List String × Bool × Bool) :=
  let (isFallible, rest) := readHandedOn called.reverse
  let (isAsync, rest) := readAwaited rest
  match rest with
  | .group _ arguments :: handler =>
    some (handler.reverse, arguments.filterMap nameOf?, isAsync, isFallible)
  | _ => none

/-- What the function that answers is called for. -/
def ReturnKind.ofAnswer? (name : String) : Option ReturnKind :=
  if name = "respond_empty" then some .unit
  else if name = "respond" then some .value
  else if name = "respond_reply" then some .reply
  else none

/-- Reads the body of a dispatch function: steps, the call of the handler, and the answer. -/
def readDispatch (runtime : List Token) (name : String) (body : List Token) : Option ToldDispatch :=
  match (statementsOf body).reverse with
  | answer :: called :: steps => do
    let (function, _) ← lastCall? answer
    let kind ← ReturnKind.ofAnswer? function
    let (handler, arguments, isAsync, isFallible) ←
      readHandlerCall (if kind = .unit then called else called.drop 3)
    let steps ← steps.reverse.mapM (readStep runtime)
    some ⟨name, steps, handler, arguments, isAsync, ⟨kind, isFallible⟩⟩
  | _ => none

def readRegistration (runtime : List Token) : List Token → Option RegistrationCall
  | [.ident name _, _] => some (.group name)
  | [_, _, _, .group _ arguments] =>
    match arguments.reverse with
    | _ :: .group _ functions :: rest =>
      match rest.drop (runtime.length + 6) with
      | _ :: .literal path :: _ :: .ident method _ :: _ => do
        let dispatch ← functions.getLast?.bind nameOf?
        let path ← Literal.stringValue? path
        let method ← Method.ofName? method
        some (.route method path dispatch)
      | _ => none
    | _ => none
  | _ => none

/-- The functions of a program, each split at its body. -/
def functionsOf : List Token → List (List Token × List Token)
  | [] => []
  | .group .brace body :: rest => ([], body) :: functionsOf rest
  | token :: rest =>
    match functionsOf rest with
    | [] => []
    | (header, body) :: others => (token :: header, body) :: others

/-- Reads a function.  Only registration functions have a type variable. -/
def readFunction (runtime : List Token) (function : List Token × List Token) : Option ToldItem :=
  match function.1.dropWhile fun token => nameOf? token != some "fn" with
  | _ :: .ident name _ :: .group .. :: _ =>
    match function.2.getLast? with
    | some (.group _ [_, _, .group _ body]) => (readDispatch runtime name body).map .dispatch
    | _ => none
  | _ :: .ident name _ :: _ =>
    ((statementsOf function.2).dropLast.mapM (readRegistration runtime)).map (.registration name)
  | _ => none

def readProgram (runtime tokens : List Token) : Option (List ToldItem) :=
  (functionsOf tokens).mapM (readFunction runtime)

/-! ### Statements -/

/-- Tokens among which no statement ends. -/
def IsSeamless (tokens : List Token) : Prop := ∀ token ∈ tokens, isSemicolon token = false

theorem isSeamless_append {first second : List Token} (hfirst : IsSeamless first)
    (hsecond : IsSeamless second) : IsSeamless (first ++ second) :=
  List.forall_mem_append.mpr ⟨hfirst, hsecond⟩

theorem isSeamless_cons {first : Token} {rest : List Token} (hfirst : isSemicolon first = false)
    (hrest : IsSeamless rest) : IsSeamless (first :: rest) :=
  List.forall_mem_cons.mpr ⟨hfirst, hrest⟩

theorem isSeamless_nil : IsSeamless [] := List.forall_mem_nil _

theorem statementsOf_append {statement : List Token} (hseamless : IsSeamless statement)
    (rest : List Token) :
    statementsOf (statement ++ mark ';' :: rest) = statement :: statementsOf rest :=
  List.splitOnP_append_cons_of_forall_mem hseamless (mark ';') rfl rest

theorem statementsOf_eq_singleton {statement : List Token} (hseamless : IsSeamless statement) :
    statementsOf statement = [statement] :=
  List.splitOnP_eq_singleton hseamless

theorem isSeamless_nameTokens (names : List String) : IsSeamless (nameTokens names) := by
  fun_induction nameTokens names with
  | case1 => exact isSeamless_nil
  | case2 last => exact isSeamless_cons rfl isSeamless_nil
  | case3 first second rest ih =>
      exact isSeamless_cons rfl (isSeamless_cons rfl (isSeamless_cons rfl ih))

theorem isSeamless_pathNameTokens (rooted : Bool) (names : List String) :
    IsSeamless (pathNameTokens 0 rooted names) := by
  have hnames := isSeamless_nameTokens names
  rw [nameTokens_eq] at hnames
  refine isSeamless_append ?_ hnames
  cases rooted with
  | true => exact isSeamless_cons rfl (isSeamless_cons rfl isSeamless_nil)
  | false => exact isSeamless_nil

/-- No statement ends in a path that is made of names. -/
theorem isSeamless_pathTokens [SourceParser] (hreads : ReadsNames) {rooted : Bool}
    {names : List String} (hne : names ≠ []) (hplain : ∀ name ∈ names, IsPlainName name)
    {tokens : List Token} (htokens : pathTokens (pathText rooted names) = .ok tokens) :
    IsSeamless tokens := by
  rw [pathTokens_pathText hreads rooted hne hplain] at htokens
  cases htokens
  split_ifs
  · exact isSeamless_pathNameTokens rooted names
  · exact isSeamless_pathNameTokens rooted _

theorem isSeamless_inRuntime {runtime : List Token} (hruntime : IsSeamless runtime)
    (names : List String) : IsSeamless (inRuntime runtime names) :=
  isSeamless_append hruntime
    (isSeamless_cons rfl (isSeamless_cons rfl (isSeamless_nameTokens _)))

theorem isSeamless_call {callee : List Token} (hcallee : IsSeamless callee)
    (arguments : List (List Token)) : IsSeamless (call callee arguments) :=
  isSeamless_append hcallee (isSeamless_cons rfl isSeamless_nil)

theorem isSeamless_methodCall {receiver : List Token} (hreceiver : IsSeamless receiver)
    (name : String) (arguments : List (List Token)) :
    IsSeamless (methodCall receiver name arguments) :=
  isSeamless_append hreceiver
    (isSeamless_cons rfl (isSeamless_call (isSeamless_cons rfl isSeamless_nil) arguments))

/-! ### Calls -/

section

variable {runtime : List Token} {arguments : List (List Token)}

theorem dropWhile_append_group {behind : List Token} {content : List Token} {rest : List Token}
    {delimiter : Delimiter} (hbehind : ∀ token ∈ behind, isGroup token = false) :
    (behind ++ .group delimiter content :: rest).dropWhile (fun token => !isGroup token) =
      .group delimiter content :: rest := by
  rw [List.dropWhile_append_of_pos]
  · rfl
  · intro token hmem
    rw [hbehind token hmem]
    rfl

/-- A call of the runtime ends in the name of its function, its arguments, and what hands its
value on. -/
theorem lastCall?_append {front behind : List Token} {name : String}
    (hbehind : ∀ token ∈ behind, isGroup token = false) :
    lastCall? (front ++ word name :: parenthesized (commaSeparated false arguments) :: behind) =
      some (name, commaSeparated false arguments) := by
  rw [lastCall?, List.reverse_append, List.reverse_cons, List.reverse_cons, List.append_assoc,
    List.append_assoc, parenthesized, List.singleton_append,
    dropWhile_append_group fun token hmem => hbehind token (List.mem_reverse.mp hmem)]
  rfl

theorem lastCall?_call_inRuntime {name : String} {behind : List Token}
    (hbehind : ∀ token ∈ behind, isGroup token = false) :
    lastCall? (call (inRuntime runtime [name]) arguments ++ behind) =
      some (name, commaSeparated false arguments) := by
  have hcall : call (inRuntime runtime [name]) arguments ++ behind =
      (runtime ++ (colons ++ (word "runtime" :: colons))) ++
        word name :: parenthesized (commaSeparated false arguments) :: behind := by
    simp [call, inRuntime, nameTokens]
  rw [hcall, lastCall?_append hbehind]

end

/-! ### Steps -/

section

variable {runtime converter : List Token}

theorem ofAccessor?_names (source : TextSource) :
    TextSource.ofAccessor? source.names.1 = some source := by
  cases source <;> rfl

/-- The texts that a conversion looks up, as it is printed. -/
def lookupTokens (source : TextSource) (key : String) : List Token :=
  methodCall [word "ctx"] source.names.1 [[.literal (Text.stringLiteral key)]]

theorem readConversion_optional (runtime : List Token) (target : String) (isNamed : Bool)
    (source : TextSource) (key : String) (converter : List Token) :
    readConversion runtime target isNamed false
        (commaSeparated false [reference converter, lookupTokens source key]) =
      some (.convert target source key (if isNamed then some converter else none) false) := by
  have hreverse : (commaSeparated false [reference converter, lookupTokens source key]).reverse =
      .group .parenthesis [.literal (Text.stringLiteral key)] :: word source.names.1 :: mark '.' ::
        word "ctx" :: mark ',' :: (converter.reverse ++ [mark '&']) := by
    simp [commaSeparated, reference, lookupTokens, methodCall, call, parenthesized, mark]
  rw [readConversion, hreverse, if_neg Bool.false_ne_true, List.drop_zero]
  simp [word, ofAccessor?_names, Literal.stringValue?_stringLiteral]

theorem readConversion_required (runtime : List Token) (target : String) (isNamed : Bool)
    (source : TextSource) (key : String) (converter : List Token) :
    readConversion runtime target isNamed true
        (commaSeparated false ([reference converter, lookupTokens source key] ++
          [[.literal (Text.stringLiteral key)],
            inRuntime runtime ["ParamSource", source.names.2]])) =
      some (.convert target source key (if isNamed then some converter else none) true) := by
  have hreverse : (commaSeparated false ([reference converter, lookupTokens source key] ++
      [[.literal (Text.stringLiteral key)],
        inRuntime runtime ["ParamSource", source.names.2]])).reverse =
      (mark ',' :: .literal (Text.stringLiteral key) :: mark ',' ::
          inRuntime runtime ["ParamSource", source.names.2]).reverse ++
        .group .parenthesis [.literal (Text.stringLiteral key)] :: word source.names.1 ::
          mark '.' :: word "ctx" :: mark ',' :: (converter.reverse ++ [mark '&']) := by
    simp [commaSeparated, reference, lookupTokens, methodCall, call, parenthesized, mark]
  have hlength : (mark ',' :: .literal (Text.stringLiteral key) :: mark ',' ::
      inRuntime runtime ["ParamSource", source.names.2]).reverse.length = runtime.length + 12 := by
    simp [inRuntime, nameTokens, colons, operator]
  rw [readConversion, hreverse, if_pos rfl, List.drop_left' hlength]
  simp [word, ofAccessor?_names, Literal.stringValue?_stringLiteral]

theorem readStep_of_lastCall {target name : String} {value arguments : List Token}
    (hcall : lastCall? value = some (name, arguments)) :
    readStep runtime (word "let" :: word target :: mark '=' :: value) =
      readValue runtime target name arguments := by
  simp only [readStep, word, hcall]

theorem exists_told_conversion [SourceParser] (hruntime : IsSeamless runtime) {source : TextSource}
    {key : String} {converter : TextConverter} {isRequired : Bool} {value : List Token}
    (target : String) (hvalue : conversion runtime source key converter isRequired = .ok value) :
    ∃ path, IsSeamless value ∧ converter.told = .ok path ∧
      readStep runtime (word "let" :: word target :: mark '=' :: value) =
        some (.convert target source key path isRequired) := by
  have hhanded : ∀ token ∈ [mark '?'], isGroup token = false := by simp [isGroup, mark]
  have hseamless : ∀ name arguments behind, IsSeamless behind →
      IsSeamless (call (inRuntime runtime [name]) arguments ++ behind) := fun _ _ _ hbehind =>
    isSeamless_append (isSeamless_call (isSeamless_inRuntime hruntime _) _) hbehind
  have hmark : IsSeamless [mark '?'] := isSeamless_cons rfl isSeamless_nil
  cases converter with
  | registered =>
      cases isRequired with
      | true =>
          cases hvalue
          refine ⟨none, hseamless _ _ _ hmark, rfl, ?_⟩
          exact (readStep_of_lastCall (lastCall?_call_inRuntime hhanded)).trans
            (readConversion_required runtime target false source key [word "converters"])
      | false =>
          cases hvalue
          refine ⟨none, hseamless _ _ _ hmark, rfl, ?_⟩
          exact (readStep_of_lastCall (lastCall?_call_inRuntime hhanded)).trans
            (readConversion_optional runtime target false source key [word "converters"])
  | named path =>
      obtain ⟨tokens, htokens, hvalue⟩ := bind_eq_ok_iff.mp hvalue
      have htold : (TextConverter.named path).told = .ok (some tokens) := by
        rw [TextConverter.told, htokens]
        rfl
      cases isRequired with
      | true =>
          cases hvalue
          refine ⟨some tokens, hseamless _ _ _ hmark, htold, ?_⟩
          exact (readStep_of_lastCall (lastCall?_call_inRuntime hhanded)).trans
            (readConversion_required runtime target true source key tokens)
      | false =>
          cases hvalue
          have hcall := @lastCall?_call_inRuntime runtime
            [reference tokens, lookupTokens source key] "convert_optional_param_with" []
            (List.forall_mem_nil _)
          rw [List.append_nil] at hcall
          refine ⟨some tokens, isSeamless_call (isSeamless_inRuntime hruntime _) _, htold, ?_⟩
          exact (readStep_of_lastCall hcall).trans
            (readConversion_optional runtime target true source key tokens)

/-- The statement of a step, and what is read from it. -/
theorem Step.exists_statement [SourceParser] (hruntime : IsSeamless runtime) {step : Step}
    {tokens : List Token} (htokens : step.tokens runtime = .ok tokens) :
    ∃ statement told, tokens = statement ++ [mark ';'] ∧ IsSeamless statement ∧
      step.told = .ok told ∧ readStep runtime statement = some told := by
  have hbind : ∀ {target : String} {value : List Token}, IsSeamless value →
      IsSeamless (word "let" :: word target :: mark '=' :: value) := fun hvalue =>
    isSeamless_cons rfl (isSeamless_cons rfl (isSeamless_cons rfl hvalue))
  have hctx : IsSeamless [word "ctx"] := isSeamless_cons rfl isSeamless_nil
  have hawaited : IsSeamless awaited :=
    isSeamless_cons rfl (isSeamless_cons rfl (isSeamless_cons rfl isSeamless_nil))
  have hquiet : ∀ token ∈ awaited, isGroup token = false := by
    simp [awaited, isGroup, mark, word]
  cases step with
  | provide target =>
      cases htokens
      refine ⟨_, _, rfl, hbind (isSeamless_append
        (isSeamless_call (isSeamless_inRuntime hruntime _) _) hawaited), rfl, ?_⟩
      exact readStep_of_lastCall (lastCall?_call_inRuntime hquiet)
  | context target =>
      cases htokens
      exact ⟨_, _, rfl, hbind (isSeamless_cons rfl hctx), rfl, rfl⟩
  | receive target =>
      cases htokens
      refine ⟨_, _, rfl, hbind (isSeamless_append (isSeamless_methodCall hctx _ _) hawaited), rfl,
        ?_⟩
      have hcall : lastCall? (methodCall [word "ctx"] "receive" [] ++ awaited) =
          some ("receive", []) := rfl
      exact readStep_of_lastCall hcall
  | convert target source key converter isRequired =>
      obtain ⟨value, hvalue, rfl⟩ := map_eq_ok_iff.mp htokens
      obtain ⟨path, hseamless, hpath, hread⟩ := exists_told_conversion hruntime target hvalue
      refine ⟨_, .convert target source key path isRequired, rfl, hbind hseamless, ?_, hread⟩
      rw [Step.told, hpath]
      rfl

theorem exists_told_stepTokens [SourceParser] (hruntime : IsSeamless runtime) {steps : List Step}
    {tokens : List Token} (htokens : stepTokens runtime steps = .ok tokens) :
    ∃ statements told, (∀ rest, statementsOf (tokens ++ rest) = statements ++ statementsOf rest) ∧
      steps.mapM Step.told = .ok told ∧ statements.mapM (readStep runtime) = some told := by
  induction steps generalizing tokens with
  | nil =>
      cases htokens
      exact ⟨[], [], fun rest => rfl, rfl, rfl⟩
  | cons first steps ih =>
      obtain ⟨one, hone, htokens⟩ := bind_eq_ok_iff.mp htokens
      obtain ⟨others, hothers, htokens⟩ := bind_eq_ok_iff.mp htokens
      cases htokens
      obtain ⟨statement, told, rfl, hseamless, htold, hread⟩ := Step.exists_statement hruntime hone
      obtain ⟨statements, rest, hstatements, hsteps, hreads⟩ := ih hothers
      refine ⟨statement :: statements, told :: rest, fun behind => ?_, ?_, ?_⟩
      · rw [List.append_assoc, List.append_assoc, List.singleton_append,
          statementsOf_append hseamless, hstatements, List.cons_append]
      · rw [List.mapM_cons, htold, hsteps]
        rfl
      · rw [List.mapM_cons, hread, hreads]
        rfl

/-! ### Handler calls and answers -/

theorem filterMap_nameOf? (names : List String) :
    (commaSeparated false (names.map fun name => [word name])).filterMap nameOf? = names := by
  induction names with
  | nil => rfl
  | cons first names ih =>
      cases names with
      | nil => rfl
      | cons second names => exact congrArg (first :: ·) ih

theorem readHandlerCall_handlerCall (function : DispatchFunction) (runtime handler : List Token) :
    readHandlerCall (function.handlerCall runtime handler) =
      some (handler, function.arguments, function.isAsync, function.returns.isFallible) := by
  have hnames := filterMap_nameOf? function.arguments
  rw [readHandlerCall, DispatchFunction.handlerCall]
  cases function.isAsync <;> cases function.returns.isFallible <;>
    simpa [methodCall, call, parenthesized, mark, word, readHandedOn, readAwaited] using hnames

theorem isSeamless_handlerCall (function : DispatchFunction) {handler : List Token}
    (hhandler : IsSeamless handler) : IsSeamless (function.handlerCall runtime handler) := by
  have hplain := isSeamless_call hhandler (function.arguments.map fun name => [word name])
  have hawait : IsSeamless [mark '.', word "await"] :=
    isSeamless_cons rfl (isSeamless_cons rfl isSeamless_nil)
  have hhanded : IsSeamless [mark '?'] := isSeamless_cons rfl isSeamless_nil
  rw [DispatchFunction.handlerCall]
  split_ifs
  · exact isSeamless_append (isSeamless_methodCall (isSeamless_append hplain hawait) _ _) hhanded
  · exact isSeamless_append (isSeamless_methodCall hplain _ _) hhanded
  · exact isSeamless_append hplain hawait
  · exact hplain

/-- The call of the handler and the answer are the last two statements of a body. -/
theorem exists_statementsOf_answerTokens (hruntime : IsSeamless runtime) (kind : ReturnKind)
    {called : List Token} (hcalled : IsSeamless called) :
    ∃ statement answer name arguments,
      statementsOf (answerTokens runtime kind called) = [statement, answer] ∧
      lastCall? answer = some (name, arguments) ∧ ReturnKind.ofAnswer? name = some kind ∧
      (if kind = .unit then statement else statement.drop 3) = called := by
  have hanswer : ∀ name arguments,
      statementsOf (call (inRuntime runtime [name]) arguments) =
        [call (inRuntime runtime [name]) arguments] := fun _ _ =>
    statementsOf_eq_singleton (isSeamless_call (isSeamless_inRuntime hruntime _) _)
  have hlast : ∀ name arguments, lastCall? (call (inRuntime runtime [name]) arguments) =
      some (name, commaSeparated false arguments) := by
    intro name arguments
    have hcall := @lastCall?_call_inRuntime runtime arguments name [] (List.forall_mem_nil _)
    rwa [List.append_nil] at hcall
  have hresult : IsSeamless (word "let" :: word "result" :: mark '=' :: called) :=
    isSeamless_cons rfl (isSeamless_cons rfl (isSeamless_cons rfl hcalled))
  have hbound : ∀ rest, bind "result" called ++ rest =
      (word "let" :: word "result" :: mark '=' :: called) ++ mark ';' :: rest := by
    intro rest
    simp [bind]
  cases kind with
  | unit =>
      refine ⟨called, _, "respond_empty", _, ?_, hlast _ [], rfl, rfl⟩
      rw [answerTokens, statementsOf_append hcalled, hanswer]
  | value =>
      refine ⟨word "let" :: word "result" :: mark '=' :: called, _, "respond", _, ?_,
        hlast _ [[word "result"]], rfl, rfl⟩
      rw [answerTokens, hbound, statementsOf_append hresult, hanswer]
  | reply =>
      refine ⟨word "let" :: word "result" :: mark '=' :: called, _, "respond_reply", _, ?_,
        hlast _ [[word "result"]], rfl, rfl⟩
      rw [answerTokens, hbound, statementsOf_append hresult, hanswer]

/-- From the body of a dispatch function just what was printed is read. -/
theorem exists_readDispatch_eq [SourceParser] (hruntime : IsSeamless runtime)
    {function : DispatchFunction} {steps handler : List Token} (hhandler : IsSeamless handler)
    (hsteps : stepTokens runtime function.steps = .ok steps)
    (hpath : pathTokens function.handlerPath = .ok handler) :
    ∃ told, function.told = .ok told ∧
      readDispatch runtime function.name (steps ++ answerTokens runtime function.returns.kind
        (function.handlerCall runtime handler)) = some told := by
  obtain ⟨statements, told, hstatements, htold, hreads⟩ := exists_told_stepTokens hruntime hsteps
  have hcall : IsSeamless (function.handlerCall runtime handler) :=
    isSeamless_handlerCall function hhandler
  obtain ⟨statement, answer, name, arguments, hanswer, hlast, hkind, hcalled⟩ :=
    exists_statementsOf_answerTokens hruntime function.returns.kind hcall
  refine ⟨⟨function.name, told, handler, function.arguments, function.isAsync, function.returns⟩,
    ?_, ?_⟩
  · rw [DispatchFunction.told, htold, hpath]
    rfl
  · have hreverse : (statements ++ [statement, answer]).reverse =
        answer :: statement :: statements.reverse := by simp
    rw [readDispatch, hstatements, hanswer, hreverse]
    simp [hlast, hkind, hcalled, readHandlerCall_handlerCall, hreads]

/-! ### Registration functions -/

/-- The statement of a registration function, and what is read from it. -/
theorem RegistrationCall.exists_statement (call : RegistrationCall) :
    ∃ statement, call.tokens runtime = statement ++ [mark ';'] ∧ IsSeamless statement ∧
      readRegistration runtime statement = some call := by
  cases call with
  | group registration =>
      exact ⟨_, rfl, isSeamless_cons rfl (isSeamless_cons rfl isSeamless_nil), rfl⟩
  | route method path dispatch =>
      refine ⟨_, rfl, isSeamless_cons rfl (isSeamless_cons rfl (isSeamless_cons rfl
        (isSeamless_cons rfl isSeamless_nil))), ?_⟩
      have hreverse : (commaSeparated true [inRuntime runtime ["Method", method.name],
          [.literal (Text.stringLiteral path)],
          MarkedRoutes.call (inRuntime runtime ["dispatch_unit"])
            [[word "converters"], [word "providers"], [word dispatch]]]).reverse =
          mark ',' :: .group .parenthesis [word "converters", mark ',', word "providers", mark ',',
              word dispatch] ::
            ((inRuntime runtime ["dispatch_unit"]).reverse ++
              mark ',' :: .literal (Text.stringLiteral path) :: mark ',' :: word method.name ::
                (runtime ++ (colons ++ word "runtime" :: (colons ++ word "Method" ::
                  colons))).reverse) := by
        simp [commaSeparated, MarkedRoutes.call, parenthesized, mark, inRuntime, nameTokens, colons,
          operator]
      have hlength : (inRuntime runtime ["dispatch_unit"]).reverse.length = runtime.length + 6 := by
        simp [inRuntime, nameTokens, colons, operator]
      simp only [readRegistration, word, mark, parenthesized] at hreverse ⊢
      rw [hreverse]
      dsimp only
      rw [List.drop_left' hlength]
      simp [nameOf?, Literal.stringValue?_stringLiteral, Method.ofName?_name]

/-- From statements that are printed one after the other they are read in their order. -/
theorem exists_statementsOf_flatMap {α : Type} {print : α → List Token}
    {call : α → RegistrationCall}
    (hprint : ∀ value, ∃ statement, print value = statement ++ [mark ';'] ∧ IsSeamless statement ∧
      readRegistration runtime statement = some (call value)) (values : List α) :
    ∃ statements, statementsOf (values.flatMap print) = statements ++ [[]] ∧
      statements.mapM (readRegistration runtime) = some (values.map call) := by
  induction values with
  | nil => exact ⟨[], rfl, rfl⟩
  | cons first values ih =>
      obtain ⟨statement, hfirst, hseamless, hread⟩ := hprint first
      obtain ⟨statements, hstatements, hreads⟩ := ih
      refine ⟨statement :: statements, ?_, ?_⟩
      · rw [List.flatMap_cons, hfirst, List.append_assoc, List.singleton_append,
          statementsOf_append hseamless, hstatements, List.cons_append]
      · rw [List.mapM_cons, hread, hreads]
        rfl

/-! ### Functions -/

/-- Tokens among which no body stands. -/
def IsBodiless (tokens : List Token) : Prop := ∀ token ∈ tokens, isBlock token = false

theorem functionsOf_append {header : List Token} (hheader : IsBodiless header)
    (body rest : List Token) :
    functionsOf (header ++ braced body :: rest) = (header, body) :: functionsOf rest := by
  induction header with
  | nil => rfl
  | cons first header ih =>
      obtain ⟨hfirst, hmore⟩ := List.forall_mem_cons.mp hheader
      rw [List.cons_append, functionsOf, ih hmore]
      rintro body rfl
      cases hfirst

theorem isBodiless_inRuntime (hbodiless : IsBodiless runtime) (names : List String) :
    IsBodiless (inRuntime runtime names) := by
  refine List.forall_mem_append.mpr ⟨hbodiless, List.forall_mem_append.mpr ⟨by decide, ?_⟩⟩
  fun_induction nameTokens ("runtime" :: names) with
  | case1 => exact List.forall_mem_nil _
  | case2 last => exact List.forall_mem_cons.mpr ⟨rfl, List.forall_mem_nil _⟩
  | case3 first second rest ih =>
      exact List.forall_mem_cons.mpr ⟨rfl, List.forall_mem_append.mpr ⟨by decide, ih⟩⟩

/-- From a printed dispatch function its header and its body are read. -/
theorem DispatchFunction.exists_readFunction_eq [SourceParser] (hruntime : IsSeamless runtime)
    (hbodiless : IsBodiless runtime) {function : DispatchFunction}
    (hhandler : ∀ handler, pathTokens function.handlerPath = .ok handler → IsSeamless handler)
    {tokens : List Token} (htokens : function.tokens runtime = .ok tokens) :
    ∃ header body told, tokens = header ++ [braced body] ∧ IsBodiless header ∧
      function.told = .ok told ∧ readFunction runtime (header, body) = some (.dispatch told) := by
  obtain ⟨steps, hsteps, htokens⟩ := bind_eq_ok_iff.mp htokens
  obtain ⟨handler, hpath, htokens⟩ := bind_eq_ok_iff.mp htokens
  cases htokens
  obtain ⟨told, htold, hread⟩ :=
    exists_readDispatch_eq hruntime (hhandler handler hpath) hsteps hpath
  have hfuture := isBodiless_inRuntime hbodiless ["DispatchFuture"]
  refine ⟨documentation (Text.stringLiteral function.title) ++ (allowUnused ++
    ([word "fn", word function.name, parameterTokens
        [typed "ctx" (inRuntime runtime ["CallContext"]),
          typed "converters" (sharedRegistry runtime "ConverterRegistry"),
          typed "providers" (sharedRegistry runtime "ProviderRegistry")]] ++
      (operator ['-', '>'] ++ inRuntime runtime ["DispatchFuture"]))),
    call (standard ["boxed", "Box", "pin"]) [[word "async", word "move", braced (steps ++
      answerTokens runtime function.returns.kind (function.handlerCall runtime handler))]],
    told, ?_, ?_, htold, ?_⟩
  · simp only [List.append_assoc]
  · simp only [documentation, allowUnused, parameterTokens, parenthesized, word, mark, operator,
      IsBodiless, List.forall_mem_append, List.forall_mem_cons, List.not_mem_nil, false_implies,
      implies_true, isBlock, true_and]
    exact hfuture
  · exact congrArg (Option.map ToldItem.dispatch) hread

/-- From a printed registration function its header and its body are read. -/
theorem exists_readFunction_eq_of_registrar (hbodiless : IsBodiless runtime) (name : String)
    (registry : List Token → List Token) {body : List Token} {statements : List (List Token)}
    {calls : List RegistrationCall} (hbody : statementsOf body = statements ++ [[]])
    (hcalls : statements.mapM (readRegistration runtime) = some calls) :
    ∃ header, registrarTokens runtime name registry body = header ++ [braced body] ∧
      IsBodiless header ∧ ∀ front, (∀ token ∈ front, nameOf? token ≠ some "fn") →
        readFunction runtime (front ++ header, body) = some (.registration name calls) := by
  refine ⟨[word "fn", word name, mark '<', word "R", mark '>', parameterTokens
    [typed "router" [mark '&', word "mut", word "R"],
      typed "converters" (registry (sharedRegistry runtime "ConverterRegistry")),
      typed "providers" (registry (sharedRegistry runtime "ProviderRegistry"))]] ++
    routerBound runtime, ?_, ?_, fun front hfront => ?_⟩
  · rw [registrarTokens, List.append_assoc]
  · have hregistrar := isBodiless_inRuntime hbodiless ["RouteRegistrar"]
    simp only [routerBound, typed, parameterTokens, parenthesized, word, mark, IsBodiless,
      List.forall_mem_append, List.forall_mem_cons, List.not_mem_nil, false_implies, implies_true,
      isBlock, true_and, and_true]
    exact hregistrar
  · have hdrop : ∀ more, (front ++ word "fn" :: more).dropWhile
        (fun token => nameOf? token != some "fn") = word "fn" :: more := by
      intro more
      rw [List.dropWhile_append_of_pos fun token hmem => bne_iff_ne.mpr (hfront token hmem)]
      rfl
    rw [readFunction, List.cons_append, hdrop]
    change ((statementsOf body).dropLast.mapM (readRegistration runtime)).map _ = _
    rw [hbody, List.dropLast_concat, hcalls]
    rfl

theorem RegistrationFunction.exists_readFunction_eq (hbodiless : IsBodiless runtime)
    (function : RegistrationFunction) :
    ∃ header body, function.tokens runtime = header ++ [braced body] ∧ IsBodiless header ∧
      readFunction runtime (header, body) =
        some (.registration function.name function.calls) := by
  have hprint : ∀ call : RegistrationCall, ∃ statement,
      call.tokens runtime = statement ++ [mark ';'] ∧ IsSeamless statement ∧
        readRegistration runtime statement = some (id call) := fun call => call.exists_statement
  obtain ⟨statements, hbody, hcalls⟩ := exists_statementsOf_flatMap hprint function.calls
  rw [List.map_id] at hcalls
  obtain ⟨header, htokens, hheader, hread⟩ :=
    exists_readFunction_eq_of_registrar hbodiless function.name reference hbody hcalls
  have hfront : IsBodiless (documentation (Text.stringLiteral function.title) ++ allowUnused) := by
    simp [IsBodiless, documentation, allowUnused, mark, isBlock]
  refine ⟨documentation (Text.stringLiteral function.title) ++ allowUnused ++ header, _, ?_,
    List.forall_mem_append.mpr ⟨hfront, hheader⟩, hread _ ?_⟩
  · rw [RegistrationFunction.tokens, htokens, List.append_assoc, List.append_assoc]
  · simp [documentation, allowUnused, mark, nameOf?]

/-- What is read from the functions of a program. -/
theorem exists_told_itemTokens [SourceParser] (hruntime : IsSeamless runtime)
    (hbodiless : IsBodiless runtime) {items : List GeneratedItem}
    (hhandlers : ∀ function, .dispatch function ∈ items → ∀ handler,
      pathTokens function.handlerPath = .ok handler → IsSeamless handler)
    {tokens : List Token} (htokens : itemTokens runtime items = .ok tokens) :
    ∃ told, items.mapM GeneratedItem.told = .ok told ∧ readProgram runtime tokens = some told := by
  induction items generalizing tokens with
  | nil =>
      cases htokens
      exact ⟨[], rfl, rfl⟩
  | cons first items ih =>
      obtain ⟨item, hitem, htokens⟩ := bind_eq_ok_iff.mp htokens
      obtain ⟨others, hothers, htokens⟩ := bind_eq_ok_iff.mp htokens
      cases htokens
      obtain ⟨rest, hrest, hreads⟩ :=
        ih (fun function hmem => hhandlers function (List.mem_cons_of_mem _ hmem)) hothers
      have hfirst : ∃ header body told, item = header ++ [braced body] ∧ IsBodiless header ∧
          first.told = .ok told ∧ readFunction runtime (header, body) = some told := by
        cases first with
        | dispatch function =>
            obtain ⟨header, body, told, hsplit, hheader, htold, hread⟩ :=
              function.exists_readFunction_eq hruntime hbodiless
                (hhandlers function List.mem_cons_self) hitem
            exact ⟨header, body, .dispatch told, hsplit, hheader, by
              rw [GeneratedItem.told, htold]; rfl, hread⟩
        | registration function =>
            cases hitem
            obtain ⟨header, body, hsplit, hheader, hread⟩ :=
              function.exists_readFunction_eq hbodiless
            exact ⟨header, body, _, hsplit, hheader, rfl, hread⟩
      obtain ⟨header, body, told, rfl, hheader, htold, hread⟩ := hfirst
      refine ⟨told :: rest, ?_, ?_⟩
      · rw [List.mapM_cons, htold, hrest]
        rfl
      · rw [readProgram, List.append_assoc, List.singleton_append, functionsOf_append hheader,
          List.mapM_cons, hread, ← readProgram, hreads]
        rfl

/-- No statement ends among the tokens of a handler's path. -/
def GeneratedProgram.HasSeamlessHandlers [SourceParser] (program : GeneratedProgram) : Prop :=
  ∀ function, .dispatch function ∈ program.items → ∀ handler,
    pathTokens function.handlerPath = .ok handler → IsSeamless handler

/-- The handlers of groups are seamless when their paths are made of names. -/
theorem hasSeamlessHandlers_ofGroups [SourceParser] (hreads : ReadsNames) (entry : String)
    {groups : List RouteGroup}
    (hhandlers : ∀ route ∈ allRoutesOf groups, ∃ rooted names, names ≠ [] ∧
      (∀ name ∈ names, IsPlainName name) ∧ route.handlerPath = pathText rooted names) :
    (GeneratedProgram.ofGroups entry groups).1.HasSeamlessHandlers := by
  have hregisters := (emits_emitGroups (.ofName entry) "" groups).registrations
  have hroutes : ∀ route ∈ allRoutesOf groups, ∀ handler,
      pathTokens route.handlerPath = .ok handler → IsSeamless handler := by
    intro route hroute handler hhandler
    obtain ⟨rooted, names, hne, hplain, hpath⟩ := hhandlers route hroute
    exact isSeamless_pathTokens hreads hne hplain (hpath ▸ hhandler)
  have hfunctions := (forall_registration_iff hregisters (P := fun function => ∀ handler,
    pathTokens function.handlerPath = .ok handler → IsSeamless handler)
    fun _ _ _ => Iff.rfl).mpr hroutes
  intro function hitem
  exact hfunctions ⟨function.method, function.route, function⟩
    (List.mem_filterMap.mpr ⟨.dispatch function, hitem, rfl⟩)

/-- The tokens of a program tell its functions, just as they were printed. -/
theorem readProgram_tokens [SourceParser] (hruntime : IsSeamless runtime)
    (hbodiless : IsBodiless runtime) {program : GeneratedProgram} {runtimePath : String}
    (hpath : pathTokens runtimePath = .ok runtime)
    (hhandlers : program.HasSeamlessHandlers) {tokens : List Token}
    (htokens : program.tokens runtimePath = .ok tokens) :
    ∃ told, program.told = .ok told ∧ readProgram runtime tokens = some told := by
  obtain ⟨-, printed, items, hprinted, hitems, rfl⟩ := program.exists_tokens_eq htokens
  obtain rfl := Except.ok.inj (hpath.symm.trans hprinted)
  obtain ⟨told, htold, hreads⟩ := exists_told_itemTokens hruntime hbodiless hhandlers hitems
  have hentries : ∀ name, ∃ statement, entryCallTokens name = statement ++ [mark ';'] ∧
      IsSeamless statement ∧ readRegistration runtime statement = some (.group name) := fun name =>
    ⟨_, rfl, isSeamless_cons rfl (isSeamless_cons rfl isSeamless_nil), rfl⟩
  obtain ⟨statements, hbody, hcalls⟩ := exists_statementsOf_flatMap hentries program.calls
  obtain ⟨header, hregistrar, hheader, hread⟩ :=
    exists_readFunction_eq_of_registrar hbodiless program.entry id hbody hcalls
  refine ⟨.registration program.entry (program.calls.map RegistrationCall.group) :: told, ?_, ?_⟩
  · rw [GeneratedProgram.told, htold]
    rfl
  · have hbodilessFront : IsBodiless entryFront := by
      simp [entryFront, IsBodiless, documentation, allowUnused, mark, word, isBlock]
    have hnameless : ∀ token ∈ entryFront, nameOf? token ≠ some "fn" := by
      simp [entryFront, documentation, allowUnused, mark, word, nameOf?]
    have hfunctions := functionsOf_append (List.forall_mem_append.mpr ⟨hbodilessFront, hheader⟩)
      (program.calls.flatMap entryCallTokens) items
    have hprogram : readProgram runtime (entryFront ++ header ++
        braced (program.calls.flatMap entryCallTokens) :: items) =
          some (.registration program.entry (program.calls.map RegistrationCall.group)
            :: told) := by
      rw [readProgram, hfunctions, List.mapM_cons, hread entryFront hnameless, ← readProgram,
        hreads]
      rfl
    rw [hregistrar, ← hprogram]
    simp only [List.append_assoc, List.cons_append, List.nil_append]

end

end MarkedRoutes
