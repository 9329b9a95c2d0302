import SourceAtlas.Proofs.Value.Texts
import SourceAtlas.Provider.Client

/-! # What a service may answer

    A client gives a text or nothing for every prompt (`IsAnswer`), whatever is
    delivered and whatever is in it, as long as what stands in the place of the
    answer is of the right kind.  The place is found by steps into the value
    that comes back (`StandsAt`); where the steps lead nowhere, there is no
    answer.  What may stand there differs: a text for some services, a message
    with texts in it for others, and one service must send a record at all
    (`Understands`).

    How a body becomes a value is left to the transport, which may also find none
    or give up on one that is nested too deeply; nothing else can go wrong
    (`ask_isAnswer_iff`). -/

namespace SourceAtlas.Client

/-! ## Places in a value -/

/-- A step into a value: to an entry of a record, or to the first item of a list. -/
inductive Step where
  | entry (name : String)
  | first

/-- What stands in a value at the end of some steps. -/
inductive StandsAt : Value → List Step → Value → Prop
  | here (v : Value) : StandsAt v [] v
  | entry {entries : Entries} {name : String} {steps : List Step} {v w : Value}
      (hv : entries.lookup name = some v) (h : StandsAt v steps w) :
      StandsAt (.record entries) (.entry name :: steps) w
  | first {v w : Value} {rest : List Value} {steps : List Step} (h : StandsAt v steps w) :
      StandsAt (.list (v :: rest)) (.first :: steps) w

/-- The value at the end of one step. -/
def Step.of? : Step → Value → Option Value
  | entry name, v => v.get? name
  | first, v => first? v

theorem standsAt_nil_iff {v w : Value} : StandsAt v [] w ↔ v = w := by
  constructor
  · rintro ⟨⟩
    rfl
  · rintro rfl
    exact .here v

/-- The first step is taken, and the others from where it leads. -/
theorem standsAt_cons_iff {v w : Value} {step : Step} {steps : List Step} :
    StandsAt v (step :: steps) w ↔ ∃ x, step.of? v = some x ∧ StandsAt x steps w := by
  constructor
  · intro h
    cases h with
    | entry hv h => exact ⟨_, hv, h⟩
    | first h => exact ⟨_, rfl, h⟩
  · rintro ⟨x, hx, h⟩
    cases step with
    | entry name =>
        cases v with
        | record entries => exact .entry hx h
        | _ => exact nomatch hx
    | first =>
        cases v with
        | list items =>
            cases items with
            | nil => exact nomatch hx
            | cons first rest =>
                obtain rfl := Option.some.inj hx
                exact .first h
        | _ => exact nomatch hx

/-- The steps are taken one after the other. -/
theorem standsAt_iff {v w : Value} {steps : List Step} :
    StandsAt v steps w ↔ steps.foldlM (fun v step => step.of? v) v = some w := by
  induction steps generalizing v with
  | nil => exact standsAt_nil_iff.trans Option.some_inj.symm
  | cons step steps ih =>
      rw [standsAt_cons_iff, List.foldlM_cons, Option.bind_eq_bind, Option.bind_eq_some_iff]
      exact exists_congr fun x => and_congr_right' ih

/-! ## What a service should answer -/

/-- Nothing, or a text. -/
def IsNullOrText (v : Value) : Prop :=
  v = .null ∨ ∃ t, v = .text t

/-- A client has come to an answer that is a text, or to none. -/
def IsAnswer (r : Except ClientError Value) : Prop :=
  ∃ v, r = .ok v ∧ IsNullOrText v

/-- No text stands under a name, or a blank one. -/
def IsBlank (entries : Entries) (name : String) : Prop :=
  ∀ t, entries.lookup name = some (.text t) → (Text.strip t.toList).isEmpty = true

/-- A chat message: its content is a text, if it has any, and so is its reasoning where the content
    is blank. -/
def IsMessage (v : Value) : Prop :=
  ∃ entries : Entries, v = .record entries ∧ entries.HasText "content"
    ∧ (IsBlank entries "content" → entries.HasText "reasoning")

/-- Where the answer of a service stands in the value that it sends. -/
def answerPlace : Service → List Step
  | .ollama => [.entry "response"]
  | .openai | .groq | .openrouter => [.entry "choices", .first, .entry "message"]
  | .anthropic => [.entry "content", .first, .entry "text"]
  | .gemini =>
    [.entry "candidates", .first, .entry "content", .entry "parts", .first, .entry "text"]

/-- What may stand in the place of the answer. -/
def IsAnswerOf : Service → Value → Prop
  | .openai | .groq | .openrouter => IsMessage
  | .ollama | .anthropic | .gemini => IsNullOrText

/-- The value that a service sends has the right shape, as far as it is looked at. -/
structure Understands (service : Service) (v : Value) : Prop where
  /-- The local service sends a record. -/
  record : service = .ollama → ∃ entries, v = .record entries
  answer : ∀ w, StandsAt v (answerPlace service) w → IsAnswerOf service w

/-! ## Chat messages -/

/-- An entry of a chat message, empty if it is missing. -/
def spoken (entries : Entries) (name : String) : Value :=
  ((entries.lookup name).getD .null).orElse (.text "")

theorem chatText_record (entries : Entries) :
    chatText (.record entries)
      = (isBlankText (spoken entries "content")).bind fun blank =>
          if blank then
            (isBlankText (spoken entries "reasoning")).bind fun blank =>
              if blank then .ok ((spoken entries "content").orElse .null)
              else .ok (spoken entries "reasoning")
          else .ok (spoken entries "content") := by
  show (isBlankText (spoken entries "content")).bind _ = _
  cases isBlankText (spoken entries "content") with
  | error e => rfl
  | ok blank =>
      cases blank with
      | false => rfl
      | true =>
          show (isBlankText (spoken entries "reasoning")).bind _ = _
          cases isBlankText (spoken entries "reasoning") with
          | error e => rfl
          | ok blank => cases blank <;> rfl

/-- What is spoken is a text, and blank if no other text stands there. -/
theorem exists_spoken {entries : Entries} {name : String} (h : entries.HasText name) :
    ∃ t, spoken entries name = .text t
      ∧ ((Text.strip t.toList).isEmpty = true ↔ IsBlank entries name) := by
  have hempty : (Text.strip "".toList).isEmpty = true := by decide
  rw [spoken, IsBlank]
  cases hv : entries.lookup name with
  | none => exact ⟨"", rfl, iff_of_true hempty nofun⟩
  | some v =>
      -- An entry that counts as missing may be the empty text, which is blank, too.
      show ∃ t, v.orElse (.text "") = .text t ∧ _
      unfold Value.orElse
      rcases Bool.eq_false_or_eq_true v.isVoid with hvoid | hvoid
      · rw [if_pos hvoid]
        refine ⟨"", rfl, iff_of_true hempty fun t ht => ?_⟩
        obtain rfl := Option.some.inj ht
        obtain rfl : t = "" := String.isEmpty_iff.mp hvoid
        exact hempty
      · rw [if_neg (ne_true_of_eq_false hvoid)]
        obtain ⟨t, rfl⟩ := (h v hv).resolve_left (ne_true_of_eq_false hvoid)
        refine ⟨t, rfl, fun hblank t' ht' => ?_, fun hblank => hblank t rfl⟩
        obtain rfl := Value.text.inj (Option.some.inj ht')
        exact hblank

theorem isBlankText_of_not_hasText {entries : Entries} {name : String}
    (h : ¬ entries.HasText name) : isBlankText (spoken entries name) = .error .badAnswer := by
  cases hv : spoken entries name with
  | text t => exact absurd (Entries.exists_orElse_iff.mp ⟨t, hv⟩) h
  | _ => rfl

theorem isAnswer_text (t : String) : IsAnswer (.ok (.text t)) :=
  ⟨_, rfl, .inr ⟨t, rfl⟩⟩

theorem not_isAnswer_error (e : ClientError) : ¬ IsAnswer (.error e) := by
  rintro ⟨v, hv, -⟩
  exact nomatch hv

/-- A chat message gives a text or nothing exactly if it is one. -/
theorem isAnswer_chatText_iff {m : Value} : IsAnswer (chatText m) ↔ IsMessage m := by
  cases m with
  | record entries =>
      rw [chatText_record]
      -- The content decides first, and the reasoning only where the content is blank.
      by_cases hcontent : Entries.HasText entries "content"
      · obtain ⟨t, ht, hblank⟩ := exists_spoken hcontent
        rw [ht]
        show IsAnswer (if (Text.strip t.toList).isEmpty then _ else .ok (.text t)) ↔ _
        by_cases hempty : (Text.strip t.toList).isEmpty = true
        · rw [if_pos hempty]
          by_cases hreasoning : Entries.HasText entries "reasoning"
          · obtain ⟨t', ht', -⟩ := exists_spoken hreasoning
            rw [ht']
            refine iff_of_true ?_ ⟨entries, rfl, hcontent, fun _ => hreasoning⟩
            show IsAnswer (if (Text.strip t'.toList).isEmpty then .ok ((Value.text t).orElse .null)
              else .ok (.text t'))
            split
            · unfold Value.orElse
              split
              · exact ⟨_, rfl, .inl rfl⟩
              · exact isAnswer_text t
            · exact isAnswer_text t'
          · rw [isBlankText_of_not_hasText hreasoning]
            refine iff_of_false (not_isAnswer_error _) ?_
            rintro ⟨entries', heq, -, h⟩
            obtain rfl := Value.record.inj heq
            exact hreasoning (h (hblank.mp hempty))
        · rw [if_neg hempty]
          exact iff_of_true (isAnswer_text t)
            ⟨entries, rfl, hcontent, fun h => absurd (hblank.mpr h) hempty⟩
      · rw [isBlankText_of_not_hasText hcontent]
        refine iff_of_false (not_isAnswer_error _) ?_
        rintro ⟨entries', heq, h, -⟩
        obtain rfl := Value.record.inj heq
        exact hcontent h
  | _ =>
      refine iff_of_false (not_isAnswer_error .badAnswer) ?_
      rintro ⟨entries, heq, -⟩
      exact nomatch heq

/-! ## The answers of the services -/

/-- What is found is an answer exactly if it is a text or nothing. -/
theorem isAnswer_found_iff {o : Option Value} :
    IsAnswer (.ok (o.getD .null)) ↔ ∀ w, o = some w → IsNullOrText w := by
  cases o with
  | none => exact iff_of_true ⟨_, rfl, .inl rfl⟩ nofun
  | some w =>
      rw [forall_some_iff]
      constructor
      · rintro ⟨v, hv, h⟩
        obtain rfl : w = v := Except.ok.inj hv
        exact h
      · exact fun h => ⟨w, rfl, h⟩

/-- What a chat service answers is the text of its message. -/
theorem isAnswer_message_iff {o : Option Value} :
    IsAnswer (match o with
      | some message => chatText message
      | none => .ok .null) ↔ ∀ m, o = some m → IsMessage m := by
  cases o with
  | none => exact iff_of_true ⟨_, rfl, .inl rfl⟩ nofun
  | some m => rw [forall_some_iff, isAnswer_chatText_iff]

/-- Of all services but the local one only the place of the answer matters. -/
theorem understands_iff (service : Service) (hservice : service ≠ .ollama) {v : Value}
    {o : Option Value} (ho : (answerPlace service).foldlM (fun v step => step.of? v) v = o) :
    Understands service v ↔ ∀ w, o = some w → IsAnswerOf service w := by
  constructor
  · intro h w hw
    exact h.answer w (standsAt_iff.mpr (ho.trans hw))
  · intro h
    exact ⟨fun heq => absurd heq hservice, fun w hw => h w (ho.symm.trans (standsAt_iff.mp hw))⟩

theorem foldlM_place (v : Value) (name name' : String) :
    [Step.entry name, .first, .entry name'].foldlM (fun v step => step.of? v) v
      = (firstUnder? v name).bind (·.get? name') := by
  simp [firstUnder?, Step.of?, Option.bind_assoc]

/-- A service is understood exactly if its answer is a text or nothing. -/
theorem isAnswer_answerIn_iff {service : Service} {v : Value} :
    IsAnswer (answerIn service v) ↔ Understands service v := by
  -- Only the local service minds what its value is; for the others the steps lead on or nowhere.
  cases service with
  | ollama =>
      cases v with
      | record entries =>
          refine isAnswer_found_iff.trans ⟨fun h => ⟨fun _ => ⟨entries, rfl⟩, fun w hw => ?_⟩,
            fun h w hw => h.answer w (.entry hw (.here w))⟩
          obtain ⟨x, hx, hxw⟩ := standsAt_cons_iff.mp hw
          exact h w (standsAt_nil_iff.mp hxw ▸ hx)
      | _ =>
          refine iff_of_false (not_isAnswer_error .badAnswer) fun h => ?_
          obtain ⟨entries, heq⟩ := h.record rfl
          exact nomatch heq
  | openai =>
      exact isAnswer_message_iff.trans (understands_iff .openai nofun (foldlM_place ..)).symm
  | groq =>
      exact isAnswer_message_iff.trans (understands_iff .groq nofun (foldlM_place ..)).symm
  | openrouter =>
      exact isAnswer_message_iff.trans (understands_iff .openrouter nofun (foldlM_place ..)).symm
  | anthropic =>
      exact isAnswer_found_iff.trans (understands_iff .anthropic nofun (foldlM_place ..)).symm
  | gemini =>
      have hplace : (answerPlace .gemini).foldlM (fun v step => step.of? v) v
          = (((firstUnder? v "candidates").bind (·.get? "content")).bind
            (firstUnder? · "parts")).bind (·.get? "text") := by
        simp [answerPlace, firstUnder?, Step.of?, Option.bind_assoc]
      exact isAnswer_found_iff.trans (understands_iff .gemini nofun hplace).symm

/-! ## Exchanges -/

/-- An exchange brings the body of an answer with a fine status. -/
def Brings (e : Exchange) (b : Body) : Prop :=
  ∃ status, e = .received status b ∧ isErrorStatus status = false

/-- What an exchange may bring: nothing that is nested too deeply, and a value that the service is
    understood by, or null. -/
structure IsReadable (service : Service) (e : Exchange) : Prop where
  depth : ¬ Brings e .tooDeep
  value : ∀ v, Brings e (.json v) → v ≠ .null → Understands service v

/-- An exchange that was not interrupted brings no body or one. -/
theorem brings_cases {e : Exchange} (he : ∀ cause, e ≠ .interrupted cause) :
    ((∀ b, ¬ Brings e b) ∧ valueOf e = .ok .null)
    ∨ ∃ b, (∀ b', Brings e b' ↔ b = b') ∧ valueOf e = valueOfBody b := by
  cases e with
  | interrupted cause => exact absurd rfl (he cause)
  | failed =>
      refine .inl ⟨?_, rfl⟩
      rintro b ⟨status, heq, -⟩
      exact nomatch heq
  | received status body =>
      have hbrings : ∀ b, Brings (.received status body) b
          ↔ isErrorStatus status = false ∧ body = b := by
        intro b
        constructor
        · rintro ⟨status', heq, hstatus⟩
          obtain ⟨rfl, rfl⟩ := Exchange.received.inj heq
          exact ⟨hstatus, rfl⟩
        · rintro ⟨hstatus, rfl⟩
          exact ⟨status, rfl, hstatus⟩
      simp only [hbrings, valueOf]
      cases isErrorStatus status with
      | true => exact .inl ⟨fun b h => (nomatch h.1), rfl⟩
      | false => exact .inr ⟨body, fun b => and_iff_right rfl, rfl⟩

/-- What comes back is read for a text or nothing exactly if it is readable. -/
theorem isAnswer_read_iff {c : Client} {e : Exchange} (he : ∀ cause, e ≠ .interrupted cause) :
    IsAnswer (c.read e) ↔ IsReadable c.service e := by
  have hnull : IsAnswer (.ok .null) := ⟨_, rfl, .inl rfl⟩
  unfold read
  rcases brings_cases he with ⟨hnothing, hvalue⟩ | ⟨b, hbrings, hvalue⟩
  · rw [hvalue]
    exact iff_of_true hnull ⟨hnothing _, fun v hv => absurd hv (hnothing _)⟩
  · rw [hvalue]
    cases b with
    | tooDeep =>
        exact iff_of_false (not_isAnswer_error _) fun h => h.depth ((hbrings _).mpr rfl)
    | other =>
        refine iff_of_true hnull ⟨fun h => (nomatch (hbrings _).mp h), fun v hv => ?_⟩
        exact nomatch (hbrings _).mp hv
    | json v =>
        have hreadable : IsReadable c.service e ↔ v ≠ .null → Understands c.service v := by
          constructor
          · exact fun h => h.value v ((hbrings _).mpr rfl)
          · refine fun h => ⟨fun hdeep => (nomatch (hbrings _).mp hdeep), fun w hw => ?_⟩
            obtain rfl := Body.json.inj ((hbrings _).mp hw)
            exact h
        rw [hreadable]
        cases v with
        | null => exact iff_of_true hnull fun h => absurd rfl h
        | _ => exact isAnswer_answerIn_iff.trans ⟨fun h _ => h, fun h => h nofun⟩

/-! ## Asking -/

/-- A client whose address is a text has a message for every prompt, or nothing to post. -/
theorem exists_message {c : Client} (hendpoint : ∃ t, c.settings.endpoint = .text t)
    (prompt : String) : ∃ m, c.message prompt = .ok m := by
  obtain ⟨t, ht⟩ := hendpoint
  obtain ⟨url, hurl⟩ : ∃ url, c.url = .ok url := by
    unfold url
    rw [ht]
    cases c.service <;> exact ⟨_, rfl⟩
  unfold message
  rw [hurl]
  split <;> exact ⟨_, rfl⟩

/-- **ASKING**: a client whose address is a text gives a text or nothing for every prompt, whatever
    the transport comes to and however it reads the body of an answer, exactly if what comes back
    for its message is readable: it is not nested too deeply, and what stands in the place of the
    answer is of the right kind. -/
theorem ask_isAnswer_iff (c : Client) (post : Message → Exchange) (prompt : String)
    (hendpoint : ∃ t, c.settings.endpoint = .text t)
    (hpost : ∀ m cause, post m ≠ .interrupted cause) :
    IsAnswer (c.ask post prompt)
      ↔ ∀ m, c.message prompt = .ok (some m) → IsReadable c.service (post m) := by
  -- Nothing is posted without credentials, and then nothing is answered.
  obtain ⟨m, hm⟩ := exists_message hendpoint prompt
  unfold ask
  rw [hm]
  cases m with
  | none => exact iff_of_true ⟨_, rfl, .inl rfl⟩ nofun
  | some m =>
      refine (isAnswer_read_iff (hpost m)).trans ⟨fun h m' hm' => ?_, fun h => h m rfl⟩
      obtain rfl := Option.some.inj (Except.ok.inj hm')
      exact h

/-! ## Answers of one value -/

/-- An answer without an error, whose body holds a value. -/
def answered (v : Value) : Message → Exchange := fun _ => .received 200 (.json v)

/-- The client for a service with some credentials and all its defaults. -/
def credited (service : Service) : Client :=
  ⟨service, { ModelSettings.ofService service with apiKey := .text "key" }, usualTimeout⟩

theorem ask_answered (service : Service) (prompt : String) {v : Value} (hv : v ≠ .null) :
    (credited service).ask (answered v) prompt = answerIn service v := by
  obtain ⟨m, hm⟩ : ∃ m, (credited service).message prompt = .ok (some m) := by
    cases service <;> exact ⟨_, rfl⟩
  rw [ask, hm]
  cases v with
  | null => exact absurd rfl hv
  | _ => rfl

/-- An answer of the local service. -/
def hello : Value := .record [("response", .text "hello")]

/-- The local service answers with a text. -/
theorem ask_isAnswer_hello :
    (∃ t, (credited .ollama).settings.endpoint = .text t)
    ∧ (∀ m cause, answered hello m ≠ .interrupted cause)
    ∧ (credited .ollama).ask (answered hello) "prompt" = .ok (.text "hello")
    ∧ (IsAnswer ((credited .ollama).ask (answered hello) "prompt")
      ↔ ∀ m, (credited .ollama).message "prompt" = .ok (some m) →
        IsReadable .ollama (answered hello m)) :=
  ⟨⟨_, rfl⟩, nofun, ask_answered .ollama "prompt" nofun,
    ask_isAnswer_iff (credited .ollama) (answered hello) "prompt" ⟨_, rfl⟩ nofun⟩

/-- An answer with a list in place of a message. -/
def listed : Value := .record [("choices", .list [.record [("message", .list [])]])]

/-- An answer with a number in place of a text. -/
def numbered : Value := .record [("content", .list [.record [("text", .int 5)]])]

/-- A list in place of a record breaks the client of the local service, and a list in place of a
    message that of a chat service; a number in place of a text is passed on. -/
theorem not_isAnswer_misshapen :
    (credited .ollama).ask (answered (.list [])) "prompt" = .error .badAnswer
    ∧ (credited .groq).ask (answered listed) "prompt" = .error .badAnswer
    ∧ (credited .anthropic).ask (answered numbered) "prompt" = .ok (.int 5)
    ∧ ¬ IsAnswer ((credited .ollama).ask (answered (.list [])) "prompt") := by
  have hempty : (credited .ollama).ask (answered (.list [])) "prompt" = .error .badAnswer :=
    ask_answered .ollama "prompt" nofun
  refine ⟨hempty, ask_answered .groq "prompt" nofun, ask_answered .anthropic "prompt" nofun, ?_⟩
  rw [hempty]
  exact not_isAnswer_error _

end SourceAtlas.Client
