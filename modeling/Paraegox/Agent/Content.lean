import Paraegox.Agent.Completion
import Paraegox.Agent.Context
import Paraegox.Agent.Ledger
import Paraegox.Wire.Envelopes

/-!
# Final content is safe

Three limits meet here: inputs of 4 KiB of which an answer quotes two, contents of
16 KiB and the 60 KiB of the answer's envelope, in which a content is quoted again.
`SafeContent` is what both providers give, and it always fits the envelope, so
`wire_safe_terminal` never replaces a `Final`.
-/

namespace Paraegox.Agent

/-! ## Safe content -/

/-- What a client may print. -/
structure SafeContent (content : String) : Prop where
  notBlank : trim content.toList ≠ []
  bounded : content.utf8ByteSize ≤ 16 * 1024
  printable : ∀ c ∈ content.toList, isControl c = true → c = '\n' ∨ c = '\t'

theorem isSafeModelContent_iff {content : String} :
    isSafeModelContent content = true ↔ SafeContent content := by
  simp only [isSafeModelContent, Bool.and_eq_true, Bool.not_eq_true', List.isEmpty_eq_false_iff,
    decide_eq_true_eq, List.any_eq_false, ne_eq, not_and, not_not]
  constructor
  · rintro ⟨⟨hblank, hlen⟩, hchars⟩
    refine ⟨hblank, hlen, fun c hc hcontrol => ?_⟩
    by_cases hline : c = '\n'
    · exact .inl hline
    · exact .inr (hchars c hc ⟨hcontrol, hline⟩)
  · intro h
    refine ⟨⟨h.notBlank, h.bounded⟩, fun c hc ⟨hcontrol, hline⟩ => ?_⟩
    exact (h.printable c hc hcontrol).resolve_left hline

/-- A safe content fits the envelope, however it is escaped. -/
theorem SafeContent.wireSafe {content : String} (h : SafeContent content) :
    (TurnTerminal.final content).WireSafe := by
  have hquote := Json.quoteLen_le h.printable
  have hbound := h.bounded
  have hnames : Json.namesLen ["terminal", "content"] = 24 := by decide
  have hfinal : (Json.str "final").encodedLen = 7 := by decide
  have hmax : MAX_AGENT_WIRE_RESPONSE_BYTES = 61440 := rfl
  rw [TurnTerminal.WireSafe, TurnTerminal.toJson, Json.encodedLen_obj]
  simp only [List.map_cons, List.map_nil, List.sum_cons, List.sum_nil, hnames, hfinal,
    Json.encodedLen_str]
  omega

theorem SafeContent.unchanged {content : String} (h : SafeContent content) (s : SessionId)
    (t : TurnId) : wireSafeTerminal s t (.final content) = .final content := by
  rw [wireSafeTerminal_eq, if_pos h.wireSafe]

/-! ## What the providers give -/

/-- An accepted input is short and has no controls. -/
theorem validateInput_ok {input : String} (h : validateInput input = .ok ()) :
    input.utf8ByteSize ≤ MAX_INPUT_BYTES ∧ ∀ c ∈ input.toList, isControl c = false := by
  rw [validateInput] at h
  split_ifs at h with hblank hlen hcontrol
  exact ⟨Nat.le_of_not_lt hlen, by simpa using hcontrol⟩

/-- An accepted input at most doubles when it is quoted. -/
theorem quoteLen_input {input : String} (h : validateInput input = .ok ()) :
    Json.quoteLen input ≤ 2 * MAX_INPUT_BYTES + 2 := by
  obtain ⟨hlen, hplain⟩ := validateInput_ok h
  have hquote : Json.quoteLen input ≤ 2 * input.utf8ByteSize + 2 :=
    Json.quoteLen_le fun c hc hcontrol => by
      rw [hplain c hc] at hcontrol
      cases hcontrol
  omega

theorem trim_ne_nil {text : List Char} {c : Char} (hc : c ∈ text)
    (hspace : isWhitespace c = false) : trim text ≠ [] := by
  intro h
  have hblank := rdropWhile_dropWhile_eq_nil.mp h c hc
  rw [hspace] at hblank
  cases hblank

/-- Short text without controls that is not all blank. -/
theorem SafeContent.of_plain {content : String} {c : Char} (hc : c ∈ content.toList)
    (hspace : isWhitespace c = false) (hplain : ∀ c ∈ content.toList, isControl c = false)
    (hlen : content.utf8ByteSize ≤ 16 * 1024) : SafeContent content where
  notBlank := trim_ne_nil hc hspace
  bounded := hlen
  printable c' hc' hcontrol := by
    rw [hplain c' hc'] at hcontrol
    cases hcontrol

/-- An input after some words of the responder. -/
theorem plain_append {words input : String} (hwords : words.toList.all fun c => !isControl c)
    (hplain : ∀ c ∈ input.toList, isControl c = false) :
    ∀ c ∈ (words ++ input).toList, isControl c = false := by
  intro c hc
  rw [String.toList_append, List.mem_append] at hc
  rcases hc with hc | hc
  · simpa using List.all_eq_true.mp hwords c hc
  · exact hplain c hc

theorem safe_current {current : String} (h : validateInput current = .ok ()) :
    SafeContent ("current: " ++ current) := by
  obtain ⟨hlen, hplain⟩ := validateInput_ok h
  have hwords : "current: ".utf8ByteSize = 9 := by decide
  have hmax : MAX_INPUT_BYTES = 4096 := rfl
  have hfirst : 'c' ∈ ("current: " ++ current).toList := by
    rw [String.toList_append]
    exact List.mem_append_left _ (by decide)
  refine .of_plain hfirst (by decide) (plain_append (by decide) hplain) ?_
  rw [String.utf8ByteSize_append]
  omega

theorem safe_previous {previous current : String} (hprevious : validateInput previous = .ok ())
    (hcurrent : validateInput current = .ok ()) :
    SafeContent ("previous: " ++ previous ++ "; current: " ++ current) := by
  obtain ⟨hlen, hplain⟩ := validateInput_ok hprevious
  obtain ⟨hlen', hplain'⟩ := validateInput_ok hcurrent
  have hwords : "previous: ".utf8ByteSize = 10 := by decide
  have hwords' : "; current: ".utf8ByteSize = 11 := by decide
  have hmax : MAX_INPUT_BYTES = 4096 := rfl
  have hhead : ∀ c ∈ ("previous: " ++ previous).toList, isControl c = false :=
    plain_append (by decide) hplain
  have htail : ∀ c ∈ ("; current: " ++ current).toList, isControl c = false :=
    plain_append (by decide) hplain'
  rw [String.append_assoc]
  have hfirst : 'p' ∈ ("previous: " ++ previous ++ ("; current: " ++ current)).toList := by
    rw [String.toList_append, String.toList_append]
    exact List.mem_append_left _ (List.mem_append_left _ (by decide))
  refine .of_plain hfirst (by decide) (fun c hc => ?_) ?_
  · rw [String.toList_append, List.mem_append] at hc
    rcases hc with hc | hc
    · exact hhead c hc
    · exact htail c hc
  · rw [String.utf8ByteSize_append, String.utf8ByteSize_append, String.utf8ByteSize_append]
    omega

/-- The inputs a context quotes are valid, and it has one. -/
structure ModelContext.Quotable (context : ModelContext) : Prop where
  valid : ∀ message ∈ context.messages, message.role = .user →
    validateInput message.content = .ok ()
  current : ∃ message ∈ context.messages, message.role = .user

theorem deterministicFinal_safe {context : ModelContext} (h : context.Quotable) :
    ∃ content, deterministicFinal context = some content ∧ SafeContent content := by
  rw [deterministicFinal]
  generalize hinputs : (context.messages.reverse.filter fun message =>
    decide (message.role = .user)).map ModelMessage.content = inputs
  have hvalid : ∀ input ∈ inputs, validateInput input = .ok () := by
    intro input hin
    rw [← hinputs] at hin
    obtain ⟨message, hmessage, rfl⟩ := List.mem_map.mp hin
    rw [List.mem_filter, List.mem_reverse, decide_eq_true_eq] at hmessage
    exact h.valid message hmessage.1 hmessage.2
  cases inputs with
  | nil =>
      obtain ⟨message, hmem, hrole⟩ := h.current
      rw [List.map_eq_nil_iff, List.filter_eq_nil_iff] at hinputs
      exact absurd (decide_eq_true hrole) (hinputs message (List.mem_reverse.mpr hmem))
  | cons current rest =>
      have hcurrent := hvalid current List.mem_cons_self
      cases rest with
      | nil => exact ⟨_, rfl, safe_current hcurrent⟩
      | cons previous _ =>
          have hprevious := hvalid previous (List.mem_cons_of_mem _ List.mem_cons_self)
          exact ⟨_, rfl, safe_previous hprevious hcurrent⟩

theorem decodeDeepseekResponse_safe {fromSlice : List UInt8 → Option DeepSeekChatResponse}
    {payload : List UInt8} {content : String}
    (h : decodeDeepseekResponse fromSlice payload = .ok content) : SafeContent content := by
  rw [decodeDeepseekResponse] at h
  split at h
  · cases h
  · split at h
    · split_ifs at h with hfinish
      split at h
      · cases h
      · split_ifs at h with hsafe
        cases h
        exact isSafeModelContent_iff.mp hsafe
    · cases h

theorem deepseekComplete_safe {fromSlice : List UInt8 → Option DeepSeekChatResponse}
    {context : ModelContext} {outcome : HttpOutcome} {content : String}
    (h : deepseekComplete fromSlice context outcome = .ok content) : SafeContent content := by
  rw [deepseekComplete] at h
  obtain ⟨_, -, h⟩ := Except.ok_of_bind h
  cases outcome with
  | unauthorized => cases h
  | unsent => cases h
  | responded response =>
      rw [HttpOutcome.answer] at h
      split_ifs at h
      obtain ⟨payload, -, h⟩ := Except.ok_of_bind h
      exact decodeDeepseekResponse_safe h

theorem CompletionProvider.Answers.safe
    {fromSlice : List UInt8 → Option DeepSeekChatResponse} {provider : CompletionProvider}
    {context : ModelContext} {content : String} (hctx : context.Quotable)
    (h : provider.Answers fromSlice context (.ok content)) : SafeContent content := by
  generalize hans : (Except.ok content : Except TurnFailure String) = answer at h
  cases h with
  | deterministic hfinal =>
      cases hans
      obtain ⟨content', hfinal', hsafe⟩ := deterministicFinal_safe hctx
      cases hfinal.symm.trans hfinal'
      exact hsafe
  | deepSeekV4Flash outcome => exact deepseekComplete_safe hans.symm

/-! ## What the service keeps -/

/-- The inputs in ledgers, frames and contexts were accepted. -/
structure World.Quotable (w : World) : Prop where
  recorded : ∀ s, ∀ completed ∈ (w.state.session s).turns, validateInput completed.input = .ok ()
  framed : ∀ task call, w.calls.lookup task = some call →
    validateInput call.guard.input = .ok () ∧ call.context.Quotable

/-- A context built from accepted inputs quotes accepted inputs. -/
theorem buildModelContext_quotable {systemPrompt input : String} {session : SessionState}
    {context : ModelContext} (h : buildModelContext systemPrompt session input = .ok context)
    (hrecorded : ∀ completed ∈ session.turns, validateInput completed.input = .ok ())
    (hinput : validateInput input = .ok ()) : context.Quotable := by
  rw [buildModelContext_eq] at h
  split_ifs at h
  cases h
  refine ⟨fun message hmem hrole => ?_, ⟨.user, input⟩, ?_, rfl⟩
  · simp only [contextMessages, List.mem_append, List.mem_cons, List.not_mem_nil, or_false,
      List.mem_flatMap, SessionState.exchanges, List.mem_filterMap] at hmem
    rcases hmem with (rfl | ⟨exchange, ⟨completed, hc, hex⟩, hmem⟩) | rfl
    · cases hrole
    · have hexin : exchange.input = completed.input := by
        rw [CompletedTurn.exchange?] at hex
        split at hex
        · cases hex
          rfl
        · cases hex
      simp only [Exchange.messages, List.mem_cons, List.not_mem_nil, or_false] at hmem
      rcases hmem with rfl | rfl
      · rw [hexin]
        exact hrecorded completed hc
      · cases hrole
    · exact hinput
  · exact List.mem_append_right _ List.mem_cons_self

theorem Event.quotable {x : Event} (hx : service.Takes x) (h : x.pre.Inv)
    (hq : x.pre.Quotable) : x.post.Quotable where
  recorded s completed hc := by
    cases Event.records hx h hc with
    | kept hold => exact hq.recorded s completed hold
    | submitted _ hvalid _ => exact hvalid
    | left hl _ _ => exact (hq.framed _ _ hl).1
  framed task call hl := by
    cases Event.frames hx h hl with
    | kept hold => exact hq.framed _ _ hold
    | admitted _ hvalid hb => exact ⟨hvalid, buildModelContext_quotable hb (hq.recorded _) hvalid⟩
    | moved hold _ =>
        have hframed := hq.framed _ _ hold
        exact hframed
    | decided _ hold _ =>
        have hframed := hq.framed _ _ hold
        exact hframed

theorem World.created_quotable (provider : CompletionProvider) :
    (World.created provider).Quotable where
  recorded s completed hc := by simp [created, AgentState.created, AgentState.session] at hc
  framed task call hl := by simp [created] at hl

/-- In the run, the provider gave this content to the frame of this guard. -/
def Gave (tr : List Event) (guard : ActiveTurnGuard) (content : String) : Prop :=
  ∃ x ∈ tr, ∃ task call, x.act = .select task (.answered (.ok content)) ∧
    x.pre.calls.lookup task = some call ∧ call.guard = guard

theorem Gave.mono {tr : List Event} {guard : ActiveTurnGuard} {content : String}
    (h : Gave tr guard content) (x : Event) : Gave (tr ++ [x]) guard content := by
  obtain ⟨y, hy, hgave⟩ := h
  exact ⟨y, List.mem_append_left _ hy, hgave⟩

/-- Every `Final` in a ledger or in a frame is what the provider gave. -/
structure World.Given (w : World) (tr : List Event) : Prop where
  recorded : ∀ s, ∀ completed ∈ (w.state.session s).turns, ∀ content,
    completed.terminal = .final content → Gave tr ⟨s, completed.turnId, completed.input⟩ content
  decided : ∀ task call, w.calls.lookup task = some call → ∀ content,
    call.phase = .decided (.final content) → Gave tr call.guard content

/-- Only an answer proposes a `Final`. -/
theorem World.proposal_final {w : World} {call : Call} {branch : SelectBranch} {content : String}
    (h : w.proposal call branch = some (.final content)) : branch = .answered (.ok content) := by
  cases branch with
  | cancelled =>
      rw [proposal] at h
      split_ifs at h
      cases h
  | answered answer =>
      cases answer with
      | error reason =>
          rw [proposal] at h
          split_ifs at h
          cases h
      | ok content' =>
          rw [proposal] at h
          split_ifs at h
          cases h
          rfl
  | timedOut =>
      rw [proposal] at h
      split_ifs at h
      cases h

theorem Event.given {x : Event} {tr : List Event} (hx : service.Takes x) (h : x.pre.Inv)
    (hg : x.pre.Given tr) : x.post.Given (tr ++ [x]) where
  recorded s completed hc content hterm := by
    cases Event.records hx h hc with
    | kept hold => exact (hg.recorded s completed hold content hterm).mono x
    | submitted _ _ hne => exact absurd hterm (hne content)
    | left hl hs hend =>
        rcases hend with rfl | hp
        · cases hterm
        · cases hterm
          cases hs
          exact (hg.decided _ _ hl content hp).mono x
  decided task call hl content hp := by
    cases Event.frames hx h hl with
    | kept hold => exact (hg.decided _ _ hold content hp).mono x
    | admitted _ _ _ => cases hp
    | moved _ hphase => exact absurd hp (hphase _)
    | @decided call' branch terminal ha hold hprop =>
        have hterm := CallPhase.decided.inj hp
        rw [wireSafeTerminal_eq] at hterm
        split_ifs at hterm
        rw [hterm] at hprop
        rw [World.proposal_final hprop] at ha
        exact ⟨x, List.mem_append_right _ List.mem_cons_self, task, call', ha, hold, rfl⟩

theorem World.created_given (provider : CompletionProvider) :
    (World.created provider).Given [] where
  recorded s completed hc := by simp [created, AgentState.created, AgentState.session] at hc
  decided task call hl := by simp [created] at hl

/-! ## Final content is safe and never downgraded -/

/-- Where `select!` takes an answer, it is one the provider can give for the context. -/
def Event.Provided (fromSlice : List UInt8 → Option DeepSeekChatResponse) (x : Event) : Prop :=
  ∀ task answer call, x.act = .select task (.answered answer) →
    x.pre.calls.lookup task = some call → x.pre.provider.Answers fromSlice call.context answer

/-- In a run whose answers come from the provider, every recorded `Final` is safe, is
what the provider gave for the recorded Turn, and passes `wire_safe_terminal` unchanged
under all identifiers.  So does what the deterministic responder says of every admitted
context, and all content `decode_deepseek_response` accepts. -/
theorem World.final_content_safe (fromSlice : List UInt8 → Option DeepSeekChatResponse)
    {provider : CompletionProvider} {tr : List Event} {w : World}
    (h : service.Run (World.created provider) tr w) (hp : ∀ x ∈ tr, x.Provided fromSlice) :
    (∀ s₀, ∀ completed ∈ (w.state.session s₀).turns, ∀ content,
      completed.terminal = .final content →
      SafeContent content ∧ Gave tr ⟨s₀, completed.turnId, completed.input⟩ content ∧
        ∀ s t, wireSafeTerminal s t (.final content) = .final content) ∧
    (∀ task call, w.calls.lookup task = some call →
      ∃ content, deterministicFinal call.context = some content ∧ SafeContent content ∧
        ∀ s t, wireSafeTerminal s t (.final content) = .final content) ∧
    ∀ payload content, decodeDeepseekResponse fromSlice payload = .ok content →
      SafeContent content ∧ ∀ s t, wireSafeTerminal s t (.final content) = .final content := by
  have hinv : ∀ x, service.Takes x → x.pre.Inv ∧ x.pre.Quotable → x.post.Inv ∧ x.post.Quotable :=
    fun x hx hw => ⟨Event.inv x hx hw.1, Event.quotable hx hw.1 hw.2⟩
  have hcreated : (World.created provider).Inv ∧ (World.created provider).Quotable :=
    ⟨World.created_inv provider, World.created_quotable provider⟩
  refine ⟨fun s₀ completed hc content hterm => ?_, fun task call hl => ?_,
    fun payload content hdecode => ?_⟩
  · have hgiven : w.Inv ∧ w.Given tr :=
      h.trace (R := fun w tr => w.Inv ∧ w.Given tr)
        (fun x g hx hw => ⟨Event.inv x hx hw.1, Event.given hx hw.1 hw.2⟩)
        ⟨hcreated.1, created_given provider⟩
    have hgave := hgiven.2.recorded s₀ completed hc content hterm
    obtain ⟨x, hx, task, call, ha, hl, -⟩ := id hgave
    obtain ⟨tr₁, tr₂, rfl, h₁, -, -⟩ := h.of_mem hx
    have hpre := h₁.invariant (I := fun w => w.Inv ∧ w.Quotable) hinv hcreated
    have hsafe := (hp x hx task _ call ha hl).safe (hpre.2.framed task call hl).2
    exact ⟨hsafe, hgave, hsafe.unchanged⟩
  · have hw := h.invariant (I := fun w => w.Inv ∧ w.Quotable) hinv hcreated
    obtain ⟨content, hfinal, hsafe⟩ := deterministicFinal_safe (hw.2.framed task call hl).2
    exact ⟨content, hfinal, hsafe, hsafe.unchanged⟩
  · have hsafe := decodeDeepseekResponse_safe hdecode
    exact ⟨hsafe, hsafe.unchanged⟩

/-- The check of `Event.Provided` on answers of the deterministic responder. -/
def Event.quotesContext (x : Event) : Bool :=
  match x.act with
  | .select task (.answered answer) =>
      x.pre.provider = .deterministic && (x.pre.calls.lookup task).any fun call =>
        answer.toOption.isSome && deterministicFinal call.context = answer.toOption
  | _ => true

theorem Event.provided_of_quotesContext {x : Event} (h : x.quotesContext = true)
    (fromSlice : List UInt8 → Option DeepSeekChatResponse) : x.Provided fromSlice := by
  intro task answer call ha hl
  simp only [quotesContext, ha, hl, Option.any_some, Bool.and_eq_true, decide_eq_true_eq] at h
  obtain ⟨hprovider, hok, hfinal⟩ := h
  rw [hprovider]
  cases answer with
  | error reason => cases hok
  | ok content => exact .deterministic hfinal

/-- Two Turns, the second of which quotes the first. -/
theorem World.final_content_safe_quoted :
    ∃ (tr : List Event) (w : World), service.Run (World.created .deterministic) tr w ∧
      (⟨⟨⟨3⟩⟩, "b", .final "previous: a; current: b"⟩ : CompletedTurn) ∈
        (w.state.session ⟨⟨1⟩⟩).turns ∧ SafeContent "previous: a; current: b" := by
  obtain ⟨tr, w, hrun, -, htest⟩ := service.exec_any (World.created .deterministic)
    [.start, .activateProfile ⟨⟨1⟩⟩ ⟨BUILTIN_AGENT_DEFINITION⟩ "p",
      .submitTurn 0 ⟨⟨1⟩⟩ ⟨⟨2⟩⟩ "a" 1, .callProvider 0, .select 0 (.answered (.ok "current: a")),
      .complete 0, .submitTurn 1 ⟨⟨1⟩⟩ ⟨⟨3⟩⟩ "b" 1, .callProvider 1,
      .select 1 (.answered (.ok "previous: a; current: b")), .complete 1]
    (fun q => q.1.all Event.quotesContext &&
      ((⟨⟨⟨3⟩⟩, "b", .final "previous: a; current: b"⟩ : CompletedTurn) ∈
        (q.2.state.session ⟨⟨1⟩⟩).turns)) (by decide +kernel)
  rw [Bool.and_eq_true, List.all_eq_true] at htest
  have hc := of_decide_eq_true htest.2
  exact ⟨tr, w, hrun, hc, ((final_content_safe (fun _ => none) hrun fun x hx =>
    Event.provided_of_quotesContext (htest.1 x hx) _).1 ⟨⟨1⟩⟩ _ hc _ rfl).1⟩

end Paraegox.Agent
