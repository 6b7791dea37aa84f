import TileFetch.Proofs.Auth.History
import TileFetch.Proofs.Auth.Schedule
import TileFetch.Proofs.Json.Fields
import TileFetch.Proofs.Provider.Faults

/-!
# What the answer to a request for a token says

An answer says what its first value says under three names.  From that the context follows, or
that the answer is of no use: `readToken_first_iff`.  What comes after the first value is not
looked at, so that an answer need not be a document: `token_of_first_value`.
-/

namespace TileFetch.Provider.Tokens

open Json (Tree Named IsField Sets Fills occurrences)

variable {tree : Tree} {response : Response} {draft result : ResponseDraft}

def fieldNames : List String :=
  ["token", "access_token", "expires_in"]

def Response.Denotes (tree : Tree) (r : Response) : Prop :=
  ∃ fields, tree.HasFields fieldNames fields ∧
    IsField Tree.IsString "token" fields r.token ∧
    IsField Tree.IsString "access_token" fields r.accessToken ∧
    IsField Tree.IsInt64 "expires_in" fields r.expiresIn

/-! ## Drafts -/

def ResponseDraft.Puts (field : Json.Field ResponseDraft) (tree : Tree)
    (f : ResponseDraft → ResponseDraft) : Prop :=
  (field.name = "token" ∧ Sets Tree.IsString (fun d v ↦ { d with token := v }) tree f) ∨
    (field.name = "access_token" ∧
      Sets Tree.IsString (fun d v ↦ { d with accessToken := v }) tree f) ∨
    field.name = "expires_in" ∧ Sets Tree.IsInt64 (fun d v ↦ { d with expiresIn := v }) tree f

section

variable {α : Type} {get : ResponseDraft → Option (Option α)} {omissible : Bool}
  {put : ResponseDraft → Option (Option α) → ResponseDraft} {d : Json.Decoder (Option α)}
  {f : ResponseDraft → ResponseDraft}

theorem puts_token_iff : ResponseDraft.Puts (.of "token" get put omissible d) tree f ↔
    Sets Tree.IsString (fun d v ↦ { d with token := v }) tree f := by
  simp [ResponseDraft.Puts, Json.Field.of]

theorem puts_accessToken_iff : ResponseDraft.Puts (.of "access_token" get put omissible d) tree f ↔
    Sets Tree.IsString (fun d v ↦ { d with accessToken := v }) tree f := by
  simp [ResponseDraft.Puts, Json.Field.of]

theorem puts_expiresIn_iff : ResponseDraft.Puts (.of "expires_in" get put omissible d) tree f ↔
    Sets Tree.IsInt64 (fun d v ↦ { d with expiresIn := v }) tree f := by
  simp [ResponseDraft.Puts, Json.Field.of]

end

theorem reflects_puts {field : Json.Field ResponseDraft} (h : field ∈ Response.shape.fields)
    (depth : Nat) : field.decoder.Reflects depth (ResponseDraft.Puts field) := by
  have hstring : ∀ s, ¬ Tree.IsString .null s := by simp [Tree.IsString]
  have hint : ∀ i, ¬ Tree.IsInt64 .null i := by simp [Tree.IsInt64, Tree.IsInteger]
  simp only [Response.shape, List.mem_cons, List.not_mem_nil, or_false] at h
  rcases h with rfl | rfl | rfl
  · exact (Json.reflects_of_sets Json.Decoder.reflects_string hstring _ _ _).congr
      fun _ _ ↦ puts_token_iff
  · exact (Json.reflects_of_sets Json.Decoder.reflects_string hstring _ _ _).congr
      fun _ _ ↦ puts_accessToken_iff
  · exact (Json.reflects_of_sets Json.Decoder.reflects_int64 hint _ _ _).congr
      fun _ _ ↦ puts_expiresIn_iff

/-- The draft `before` becomes `after` with the fields. -/
def ResponseDraft.Gathered (fields : List (String × Tree)) (before after : ResponseDraft) : Prop :=
  Fills Tree.IsString (occurrences "token" fields) before.token after.token ∧
    Fills Tree.IsString (occurrences "access_token" fields) before.accessToken after.accessToken ∧
    Fills Tree.IsInt64 (occurrences "expires_in" fields) before.expiresIn after.expiresIn

theorem gathers_iff {fields : List (String × Tree)} :
    Response.shape.Gathers ResponseDraft.Puts fields draft result ↔
      ResponseDraft.Gathered fields draft result := by
  induction fields generalizing draft with
  | nil =>
      rw [Json.Shape.gathers_nil_iff]
      cases draft
      cases result
      simp [ResponseDraft.Gathered]
  | cons field fields ih =>
      obtain ⟨key, tree⟩ := field
      -- A name counts for one field of the draft, or for none.
      by_cases htoken : key = "token"
      · subst htoken
        rw [Json.Shape.gathers_cons_of_sets rfl fun _ ↦ puts_token_iff]
        simp only [ih, ResponseDraft.Gathered, Json.occurrences_cons, String.reduceEq, if_true,
          if_false, Fills]
        constructor
        · rintro ⟨hnone, value, hvalue, htoken, hothers⟩
          exact ⟨⟨hnone, value, hvalue, htoken⟩, hothers⟩
        · rintro ⟨⟨hnone, value, hvalue, htoken⟩, hothers⟩
          exact ⟨hnone, value, hvalue, htoken, hothers⟩
      by_cases haccess : key = "access_token"
      · subst haccess
        rw [Json.Shape.gathers_cons_of_sets rfl fun _ ↦ puts_accessToken_iff]
        simp only [ih, ResponseDraft.Gathered, Json.occurrences_cons, String.reduceEq, if_true,
          if_false, Fills]
        constructor
        · rintro ⟨hnone, value, hvalue, htoken, haccess, hexpires⟩
          exact ⟨htoken, ⟨hnone, value, hvalue, haccess⟩, hexpires⟩
        · rintro ⟨htoken, ⟨hnone, value, hvalue, haccess⟩, hexpires⟩
          exact ⟨hnone, value, hvalue, htoken, haccess, hexpires⟩
      by_cases hexpires : key = "expires_in"
      · subst hexpires
        rw [Json.Shape.gathers_cons_of_sets rfl fun _ ↦ puts_expiresIn_iff]
        simp only [ih, ResponseDraft.Gathered, Json.occurrences_cons, String.reduceEq, if_true,
          if_false, Fills]
        constructor
        · rintro ⟨hnone, value, hvalue, htoken, haccess, hexpires⟩
          exact ⟨htoken, haccess, hnone, value, hvalue, hexpires⟩
        · rintro ⟨htoken, haccess, hnone, value, hvalue, hexpires⟩
          exact ⟨hnone, value, hvalue, htoken, haccess, hexpires⟩
      have hnone : Response.shape.field? key = none := by
        simp [Json.Shape.field?, Response.shape, Json.Field.of, Ne.symm htoken, Ne.symm haccess,
          Ne.symm hexpires]
      rw [Json.Shape.gathers_cons_of_none hnone, ih]
      simp [ResponseDraft.Gathered, Json.occurrences_cons, htoken, haccess, hexpires]

theorem gathersRow_iff {items : List Tree} :
    Json.Shape.GathersRow ResponseDraft.Puts Response.shape.fields items {} result ↔
      items.length ≤ 3 ∧ ResponseDraft.Gathered (fieldNames.zip items) {} result := by
  obtain ⟨token, accessToken, expiresIn⟩ := result
  rcases items with _ | ⟨a, _ | ⟨b, _ | ⟨c, _ | ⟨d, items⟩⟩⟩⟩
  all_goals
    simp only [Response.shape, Json.Shape.gathersRow_omitted_iff, Json.Shape.gathersRow_nil_iff,
      Json.Shape.gathersRow_item_of_sets fun _ ↦ puts_token_iff,
      Json.Shape.gathersRow_item_of_sets fun _ ↦ puts_accessToken_iff,
      Json.Shape.gathersRow_item_of_sets fun _ ↦ puts_expiresIn_iff]
    simp only [Json.Field.of, ResponseDraft.mk.injEq, true_and, ResponseDraft.Gathered, fieldNames,
      List.zip_cons_cons, List.zip_nil_right, Json.occurrences_cons, Json.occurrences_nil,
      String.reduceEq, if_true, if_false, Fills, List.length_cons, List.length_nil, Nat.zero_le,
      Nat.reduceAdd, Nat.reduceLeDiff]
  · constructor
    · rintro ⟨token, htoken, rfl, rfl, rfl⟩
      exact ⟨⟨token, htoken, rfl⟩, rfl, rfl⟩
    · rintro ⟨⟨token, htoken, rfl⟩, rfl, rfl⟩
      exact ⟨token, htoken, rfl, rfl, rfl⟩
  · constructor
    · rintro ⟨token, htoken, access, haccess, rfl, rfl, rfl⟩
      exact ⟨⟨token, htoken, rfl⟩, ⟨access, haccess, rfl⟩, rfl⟩
    · rintro ⟨⟨token, htoken, rfl⟩, ⟨access, haccess, rfl⟩, rfl⟩
      exact ⟨token, htoken, access, haccess, rfl, rfl, rfl⟩
  · constructor
    · rintro ⟨token, htoken, access, haccess, lifetime, hlifetime, rfl, rfl, rfl⟩
      exact ⟨⟨token, htoken, rfl⟩, ⟨access, haccess, rfl⟩, lifetime, hlifetime, rfl⟩
    · rintro ⟨⟨token, htoken, rfl⟩, ⟨access, haccess, rfl⟩, lifetime, hlifetime, rfl⟩
      exact ⟨token, htoken, access, haccess, lifetime, hlifetime, rfl, rfl, rfl⟩
  · simp

/-! ## Answers -/

theorem finish_eq_ok_iff : Response.shape.finish draft = .ok response ↔
    draft.token.getD none = response.token ∧ draft.accessToken.getD none = response.accessToken ∧
      draft.expiresIn.getD none = response.expiresIn := by
  cases response
  simp [Response.shape]

theorem gathers_or_row_iff : ((∃ members named, tree = .object members ∧ Named members named ∧
      Response.shape.Gathers ResponseDraft.Puts named {} result) ∨
    ∃ items, tree = .list items ∧ Json.Shape.GathersRow ResponseDraft.Puts
      Response.shape.fields items {} result) ↔
    ∃ fields, tree.HasFields fieldNames fields ∧ ResponseDraft.Gathered fields {} result := by
  constructor
  · rintro (⟨members, named, rfl, hnamed, hgathers⟩ | ⟨items, rfl, hrow⟩)
    · exact ⟨named, .inl ⟨members, rfl, hnamed⟩, gathers_iff.mp hgathers⟩
    · obtain ⟨hlength, hgathered⟩ := gathersRow_iff.mp hrow
      exact ⟨_, .inr ⟨items, rfl, hlength, rfl⟩, hgathered⟩
  · rintro ⟨fields, ⟨members, rfl, hnamed⟩ | ⟨items, rfl, hlength, rfl⟩, hgathered⟩
    · exact .inl ⟨members, fields, rfl, hnamed, gathers_iff.mpr hgathered⟩
    · exact .inr ⟨items, rfl, gathersRow_iff.mpr ⟨hlength, hgathered⟩⟩

theorem records_iff : Response.shape.Records ResponseDraft.Puts tree
    response ↔ Response.Denotes tree response := by
  constructor
  · rintro ⟨result, hfinish, hgathers⟩
    obtain ⟨htoken, haccess, hexpires⟩ := finish_eq_ok_iff.mp hfinish
    obtain ⟨fields, hfields, hgathered⟩ := gathers_or_row_iff.mp hgathers
    exact ⟨fields, hfields, Json.exists_fills_iff.mp ⟨_, hgathered.1, htoken⟩,
      Json.exists_fills_iff.mp ⟨_, hgathered.2.1, haccess⟩,
      Json.exists_fills_iff.mp ⟨_, hgathered.2.2, hexpires⟩⟩
  · rintro ⟨fields, hfields, htoken, haccess, hexpires⟩
    obtain ⟨token, hfills, htoken⟩ := Json.exists_fills_iff.mpr htoken
    obtain ⟨accessToken, hfills', haccess⟩ := Json.exists_fills_iff.mpr haccess
    obtain ⟨expiresIn, hfills'', hexpires⟩ := Json.exists_fills_iff.mpr hexpires
    refine ⟨⟨token, accessToken, expiresIn⟩, finish_eq_ok_iff.mpr ⟨htoken, haccess, hexpires⟩, ?_⟩
    exact gathers_or_row_iff.mpr ⟨fields, hfields, hfills, hfills', hfills''⟩

theorem reflects_response {depth : Nat} (hdepth : 1 < depth) :
    Response.shape.decoder.Reflects depth Response.Denotes :=
  (Json.Shape.reflects rfl hdepth fun _ hfield ↦ reflects_puts hfield _).congr
    fun _ _ ↦ records_iff.symm

theorem Response.Denotes.ne_number (h : Response.Denotes tree response) (spelling : List UInt8) :
    tree ≠ .number spelling := by
  rintro rfl
  obtain ⟨fields, ⟨_, h, -⟩ | ⟨_, h, -⟩, -⟩ := h <;> simp at h

/-! ## Contexts -/

def Expires (now : Time.Instant) : Option Int → Option Time.Instant → Prop
  | none, expiresAt => expiresAt = none
  | some lifetime, expiresAt => 1 ≤ lifetime ∧ ∃ t, expiresAt = some t ∧ t.offset = now.offset ∧
      t.nanos = now.nanos + lifetime * Time.second

/-- The context that an answer gives at `now`.  A token under the first name counts even if it is
empty. -/
def Response.Issues (r : Response) (now : Time.Instant) (c : Auth.Context) : Prop :=
  ∃ token expiresAt, r.token.or r.accessToken = some token ∧ token ≠ "" ∧
    Expires now r.expiresIn expiresAt ∧
    c = { bypass := false, token := some token, expiresAt, values := .empty }

variable {now t : Time.Instant} {c : Auth.Context} {s : Int}

/-- Instants with one offset are less than the longest span apart. -/
theorem nanos_sub_bounds (h : t.offset = now.offset) :
    -((Time.maxSeconds + 1) * Time.second + 999999999) ≤ t.nanos - now.nanos ∧
      t.nanos - now.nanos ≤ Time.maxSeconds * Time.second + 999999999 := by
  have hfits : Time.endNano - Time.firstNano ≤ Time.maxSeconds * Time.second + 999999999 := by
    decide
  have hlower := t.lower
  have hupper := t.upper
  have hlower' := now.lower
  have hupper' := now.upper
  simp only [Time.Instant.nanos, h]
  simp only [Time.maxSeconds, Time.second] at hfits ⊢
  omega

theorem ofParts?_bind_eq_some_iff : (Time.Span.ofParts? s 0).bind now.add? = some t ↔
    t.offset = now.offset ∧ t.nanos = now.nanos + s * Time.second := by
  simp only [Time.Span.ofParts?, Time.Span.ofNanos?, add_zero]
  constructor
  · intro h
    split_ifs at h
    · exact Time.Instant.add?_eq_some_iff.mp h
    · simp at h
  · rintro ⟨hoffset, hnanos⟩
    -- A lifetime that ends at an instant is no longer than the longest span.
    have hbounds := nanos_sub_bounds hoffset
    rw [hnanos, add_sub_cancel_left] at hbounds
    rw [dif_pos hbounds]
    exact Time.Instant.add?_eq_some_iff.mpr ⟨hoffset, hnanos⟩

theorem expiry_eq_ok_iff : expiry now s = .ok t ↔
    1 ≤ s ∧ t.offset = now.offset ∧ t.nanos = now.nanos + s * Time.second := by
  rw [← ofParts?_bind_eq_some_iff]
  unfold expiry
  split_ifs with hs
  · simp
    omega
  · have hpos : 1 ≤ s := by omega
    cases (Time.Span.ofParts? s 0).bind now.add? <;> simp [hpos]

theorem context_eq_ok_iff : response.context now = .ok c ↔ response.Issues now c := by
  unfold Response.context Response.Issues
  cases response.token.or response.accessToken with
  | none => simp
  | some token =>
      by_cases hempty : token = ""
      · simp [hempty]
      · have hnot : token.isEmpty = false := by simpa using hempty
        cases response.expiresIn with
        | none => simp [hnot, hempty, Expires, Auth.Context.ofToken, eq_comm]
        | some lifetime =>
            simp [hnot, hempty, Expires, ← expiry_eq_ok_iff]
            cases expiry now lifetime <;> simp [Auth.Context.ofToken, eq_comm]

theorem Response.Issues.not_expired (h : response.Issues now c) : c.isExpired now = false := by
  obtain ⟨token, expiresAt, -, -, hexpires, rfl⟩ := h
  cases hlifetime : response.expiresIn with
  | none =>
      rw [hlifetime] at hexpires
      obtain rfl : expiresAt = none := hexpires
      rfl
  | some lifetime =>
      rw [hlifetime] at hexpires
      obtain ⟨hpos, t, rfl, -, hnanos⟩ := hexpires
      simp [Auth.Context.isExpired, Time.Instant.notAfter, hnanos, Time.second]
      omega

/-! ## Answers to requests for tokens -/

variable {p : Tokens} {env : Env} {body lead tail : List UInt8}

theorem readToken_eq_ok_iff : p.readToken env now body = .ok c ↔
    ∃ r, Response.shape.decoder.parseLeading body = .ok r ∧ r.Issues now c := by
  unfold readToken
  cases hread : Response.shape.decoder.parseLeading body with
  | error fault => simp
  | ok r =>
      cases hcontext : r.context now with
      | error reason =>
          simp [Except.mapError, ← context_eq_ok_iff, hcontext]
      | ok context =>
          simp [Except.mapError, ← context_eq_ok_iff, hcontext]

theorem parseLeading_response_iff (h : Json.IsFirstValue tree lead tail) :
    Response.shape.decoder.parseLeading (lead ++ tail) = .ok response ↔
      Response.Denotes tree response :=
  (reflects_response (by decide)).parseLeading_iff (fun spelling r hr ↦ hr.ne_number spelling rfl) h

theorem parse_response_iff (h : Json.IsFirstValue tree lead tail) :
    Response.shape.decoder.parse (lead ++ tail) = .ok response ↔
      Response.Denotes tree response ∧ Json.Blank tail :=
  (reflects_response (by decide)).parse_iff (fun spelling r hr ↦ hr.ne_number spelling rfl) h

/-- What is issued is what the first value of an answer gives. -/
theorem readToken_first_iff (h : Json.IsFirstValue tree lead tail) :
    p.readToken env now (lead ++ tail) = .ok c ↔
      ∃ r, Response.Denotes tree r ∧ r.Issues now c := by
  simp only [readToken_eq_ok_iff, parseLeading_response_iff h]

/-! ## Answers for examples -/

def exampleServer : Tokens where
  name := "token"
  template := { raw := "", segments := [] }
  tokenUrl :=
    { scheme := "https".toList, username := [], password := [],
      host := .name "auth.example.com".toList, port := none, path := .segments ["token".toList],
      query := none, fragment := none }
  basicAuth := none
  form := []
  header := "Authorization"
  headerPrefix := "Bearer "

def shortAnswer : List UInt8 :=
  Text.Utf8.bytes "\x7b\"token\":\"abc\"\x7d"

def longAnswer : List UInt8 :=
  Text.Utf8.bytes "\x7b\"token\":null,\"access_token\":\"abc\",\"expires_in\":60\x7d"

theorem isText_bytes {s : String} (h : ∀ ch ∈ s.toList, Json.IsPlainChar ch) :
    Json.IsText (Text.Utf8.bytes s) :=
  (Json.spells_encode h).isText

theorem isFirstValue_shortAnswer (tail : List UInt8) : Json.IsFirstValue
    (.object [(Text.Utf8.bytes "token", .text (Text.Utf8.bytes "abc"))]) shortAnswer tail := by
  have hvalue := Json.IsValue.text (isText_bytes (s := "abc") (by simp [Json.IsPlainChar]))
  have hkey := isText_bytes (s := "token") (by simp [Json.IsPlainChar])
  refine ⟨[], shortAnswer, Json.blank_nil, ?_, by simp [Tree.EndsBefore], rfl⟩
  exact .object (.cons Json.blank_nil hkey (Json.isMark_self 0x3A) hvalue (.nil Json.blank_nil))

theorem isDocument_longAnswer : Json.IsDocument
    (.object [(Text.Utf8.bytes "token", .null),
      (Text.Utf8.bytes "access_token", .text (Text.Utf8.bytes "abc")),
      (Text.Utf8.bytes "expires_in", .number [0x36, 0x30])]) longAnswer := by
  have hvalue := Json.IsValue.text (isText_bytes (s := "abc") (by simp [Json.IsPlainChar]))
  have htoken := isText_bytes (s := "token") (by simp [Json.IsPlainChar])
  have haccess := isText_bytes (s := "access_token") (by simp [Json.IsPlainChar])
  have hexpires := isText_bytes (s := "expires_in") (by simp [Json.IsPlainChar])
  have hdigits : Json.IsDigits [0x36, 0x30] := ⟨by simp, by simp [Json.isDigitByte]⟩
  have hnumber : Json.IsNumber [0x36, 0x30] :=
    .inl ⟨[0x36, 0x30], [], [], ⟨hdigits, by simp⟩, .inl rfl, .inl rfl, rfl⟩
  refine ⟨[], longAnswer, [], Json.blank_nil, ?_, Json.blank_nil, rfl⟩
  exact .object (.cons Json.blank_nil htoken (Json.isMark_self 0x3A) .null
    (.cons (Json.isMark_self 0x2C) haccess (Json.isMark_self 0x3A) hvalue
      (.cons (Json.isMark_self 0x2C) hexpires (Json.isMark_self 0x3A) (.number hnumber) (.nil Json.blank_nil))))

theorem eq_ok_of_toOption {ε α : Type} {e : Except ε α} {a : α} (h : e.toOption = some a) :
    e = .ok a := by
  cases e with
  | error fault => simp [Except.toOption] at h
  | ok b => simpa [Except.toOption] using h

theorem readToken_shortAnswer :
    exampleServer.readToken .default (Auth.moment 0) shortAnswer = .ok (.ofToken "abc") :=
  eq_ok_of_toOption (by decide +kernel)

theorem readToken_longAnswer : exampleServer.readToken .default (Auth.moment 0) longAnswer =
    .ok { Auth.Context.ofToken "abc" with
      expiresAt := some ⟨60000000000, .utc, by decide, by decide⟩ } :=
  eq_ok_of_toOption (by decide +kernel)

/-! ## What is issued -/

/-- A document is answered with the context that it gives, and then the token is not expired; if
it gives none then the answer is of no use, and that is the only way in which reading it fails. -/
theorem document_issues_iff (h : Json.IsDocument tree body) (p : Tokens) (env : Env)
    (now : Time.Instant) :
    (∀ c, p.readToken env now body = .ok c ↔
        ∃ r, Response.Denotes tree r ∧ r.Issues now c) ∧
      (∀ c, p.readToken env now body = .ok c → c.isExpired now = false) ∧
      ∀ failure, p.readToken env now body = .error failure → failure.kind = .invalidResponse := by
  obtain ⟨lead, tail, hfirst, -, rfl⟩ := h.exists_first
  refine ⟨fun c ↦ readToken_first_iff hfirst, fun c hc ↦ ?_, fun failure ↦ kind_of_readToken⟩
  obtain ⟨r, -, hissues⟩ := (readToken_first_iff hfirst).mp hc
  exact hissues.not_expired

theorem longAnswer_issues :
    ∃ tree c, Json.IsDocument tree longAnswer ∧
      exampleServer.readToken .default (Auth.moment 0) longAnswer = .ok c ∧
      c.token = some "abc" ∧ (∃ r, Response.Denotes tree r ∧ r.Issues (Auth.moment 0) c) ∧
      c.isExpired (Auth.moment 0) = false := by
  obtain ⟨hissues, hlives, -⟩ :=
    document_issues_iff isDocument_longAnswer exampleServer .default (Auth.moment 0)
  exact ⟨_, _, isDocument_longAnswer, readToken_longAnswer, rfl,
    (hissues _).mp readToken_longAnswer, hlives _ readToken_longAnswer⟩

/-- What follows the first value of an answer makes no difference to the context that is issued,
also if it makes the answer no document. -/
theorem token_of_first_value (h : Json.IsFirstValue tree lead tail) (p : Tokens) (env : Env)
    (now : Time.Instant) :
    (∀ c, p.readToken env now (lead ++ tail) = .ok c ↔ p.readToken env now lead = .ok c) ∧
      (∀ failure, p.readToken env now (lead ++ tail) = .error failure →
        failure.kind = .invalidResponse) ∧
      ∀ r, Response.shape.decoder.parse (lead ++ tail) = .ok r ↔
        Response.shape.decoder.parseLeading lead = .ok r ∧ Json.Blank tail := by
  have hlead : Json.IsFirstValue tree lead [] := by
    obtain ⟨before, value, hbefore, hvalue, -, rfl⟩ := h
    exact ⟨before, value, hbefore, hvalue, Json.stops_nil.endsBefore tree, rfl⟩
  refine ⟨fun c ↦ ?_, fun failure ↦ kind_of_readToken, fun r ↦ ?_⟩
  · rw [readToken_first_iff h, ← readToken_first_iff hlead, List.append_nil]
  · rw [parse_response_iff h, ← parseLeading_response_iff hlead, List.append_nil]

theorem first_of_two_answers_counts :
    ∃ tree, Json.IsFirstValue tree shortAnswer longAnswer ∧
      exampleServer.readToken .default (Auth.moment 0) (shortAnswer ++ longAnswer) =
        .ok (.ofToken "abc") := by
  obtain ⟨hissues, -, -⟩ := token_of_first_value (isFirstValue_shortAnswer longAnswer)
    exampleServer .default (Auth.moment 0)
  exact ⟨_, isFirstValue_shortAnswer longAnswer, (hissues _).mpr readToken_shortAnswer⟩

/-- An answer may go on with something else after its first value, and a token is issued. -/
theorem trailing_text_accepted :
    ∃ tree lead tail, Json.IsFirstValue tree lead tail ∧ ¬ Json.Blank tail ∧
      lead ++ tail = Text.Utf8.bytes "\x7b\"token\":\"abc\"\x7d trailing" ∧
      exampleServer.readToken .default (Auth.moment 0) (lead ++ tail) = .ok (.ofToken "abc") ∧
      (match Response.shape.decoder.parse (lead ++ tail) with
        | .ok _ => none
        | .error fault => some fault.message) = some "trailing characters at line 1 column 17" := by
  refine ⟨_, shortAnswer, Text.Utf8.bytes " trailing", isFirstValue_shortAnswer _, ?_, ?_,
    eq_ok_of_toOption ?_, ?_⟩
  · intro h
    have hletter := h 0x74 (by decide +kernel)
    simp [Json.isBlankByte] at hletter
  all_goals decide +kernel

end TileFetch.Provider.Tokens
