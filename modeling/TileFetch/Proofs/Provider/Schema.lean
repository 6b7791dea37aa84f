import TileFetch.Proofs.Json.Objects
import TileFetch.Provider.Spec

/-!
# The schemas of providers

The parameters of each kind of provider have a schema: which keys there may be and what each of them
may hold.  Whether the parameters follow it is decided before any address is looked at, and then the
address for tokens is looked at before the template: `build_accepts_schema`.
-/

namespace TileFetch.Provider

open Json (Decoder textMembers Cell)

/-! ## Members -/

section

variable {member? : Option Json} {text default : String} {value : Option String}
  {texts : Dict String}

def IsText (member? : Option Json) (text : String) : Prop :=
  member? = some (.string text)

/-- A text that may be absent, but not null. -/
def IsTextOr (default : String) (member? : Option Json) (text : String) : Prop :=
  member? = none ∧ text = default ∨ IsText member? text

/-- A text that may be absent or null. -/
def IsOptionalText (member? : Option Json) (value : Option String) : Prop :=
  (member? = none ∨ member? = some .null) ∧ value = none ∨
    ∃ text, IsText member? text ∧ value = some text

def IsTexts (member? : Option Json) (texts : Dict String) : Prop :=
  member? = none ∧ texts = .empty ∨
    ∃ entries, member? = some (.object (textMembers entries)) ∧ texts = .ofPairs entries

theorem isText_iff_fills :
    IsText member? text ↔ Decoder.Fills .string none member? (some text) := by
  cases member? with
  | none => simp [IsText, Decoder.Fills]
  | some j => simp [IsText, Decoder.Fills]

theorem isTextOr_iff_fills : IsTextOr default member? text ↔
    ∃ value, Decoder.Fills .string none member? value ∧ text = value.getD default := by
  cases member? with
  | none => simp [IsTextOr, IsText, Decoder.Fills]
  | some j =>
      simp only [IsTextOr, IsText, Decoder.Fills, Decoder.ofJson_string_eq_ok_iff]
      aesop

theorem isOptionalText_iff_fills : IsOptionalText member? value ↔
    ∃ value?, Decoder.Fills (.option .string) none member? value? ∧ value = value?.getD none := by
  cases member? with
  | none => simp [IsOptionalText, IsText, Decoder.Fills]
  | some j =>
      simp only [IsOptionalText, IsText, Decoder.Fills, Decoder.ofJson_option_string_eq_ok_iff]
      aesop

theorem isTexts_iff_fills : IsTexts member? texts ↔
    ∃ texts?, Decoder.Fills (.dict .string) none member? texts? ∧ texts = texts?.getD .empty := by
  cases member? with
  | none => simp [IsTexts, Decoder.Fills]
  | some j =>
      simp only [IsTexts, Decoder.Fills, Decoder.ofJson_dict_string_eq_ok_iff]
      aesop

end

/-! ## Parameters -/

def Params.ofDict (params : Dict Json) : Params :=
  ⟨params.entries⟩

def KeysAmong (keys : List String) (params : Dict Json) : Prop :=
  ∀ entry ∈ params.entries, entry.1 ∈ keys

/-- Parameters are read if there are no members but fields and each field can be filled. -/
theorem Params.read_eq_ok_iff {σ α : Type} {shape : Json.Shape σ α} {cells : List (Cell σ)}
    {params : Dict Json} {a : α} (h : shape.Consists cells) :
    (ofDict params).read shape.decoder = .ok a ↔
      KeysAmong (cells.map Cell.name) params ∧ ∃ draft, shape.finish draft = .ok a ∧
        ∀ cell ∈ cells, cell.decoder.Fills none (params.get? cell.name) (cell.get draft) := by
  have hread : (ofDict params).read shape.decoder = .ok a ↔
      shape.ofJson (.object params.entries) = .ok a := by
    cases hread : shape.ofJson (.object params.entries) <;>
      simp [read, json, ofDict, Json.Shape.decoder, hread, Except.mapError]
  have hkeys : KeysAmong (cells.map Cell.name) params ↔
      ∀ key ∈ params.entries.map (·.1), key ∈ cells.map Cell.name :=
    List.forall_mem_map.symm
  rw [hread, h.ofJson_eq_ok_iff params.ordered.nodup, hkeys]
  rfl

/-- Parameters that cannot be read are refused for their shape. -/
theorem Params.read_eq_error {α : Type} {p : Params} {d : Decoder α}
    (h : ∀ a, p.read d ≠ .ok a) : ∃ cause, p.read d = .error (.params cause) := by
  rw [read] at h ⊢
  cases hread : d.ofJson p.json with
  | ok a => exact (h a (by rw [hread]; rfl)).elim
  | error cause => exact ⟨cause, rfl⟩

structure Public.Schema (params : Dict Json) (p : Public.Params) : Prop where
  keys : KeysAmong ["url", "headers"] params
  url : IsText (params.get? "url") p.url
  headers : IsTexts (params.get? "headers") p.headers

structure Tokens.Schema (params : Dict Json) (p : Tokens.Params) : Prop where
  keys : KeysAmong ["url", "token_url", "client_id", "client_secret", "form", "header",
    "header_prefix"] params
  url : IsText (params.get? "url") p.url
  tokenUrl : IsText (params.get? "token_url") p.tokenUrl
  clientId : IsOptionalText (params.get? "client_id") p.clientId
  clientSecret : IsOptionalText (params.get? "client_secret") p.clientSecret
  form : IsTexts (params.get? "form") p.form
  header : IsTextOr "Authorization" (params.get? "header") p.header
  headerPrefix : IsTextOr "Bearer " (params.get? "header_prefix") p.headerPrefix

namespace Public

def cells : List (Cell Draft) :=
  [⟨"url", Draft.url, fun d v ↦ { d with url := v }, false, .string⟩,
    ⟨"headers", Draft.headers, fun d v ↦ { d with headers := v }, true, .dict .string⟩]

theorem consists_shape : Params.shape.Consists cells where
  closed := rfl
  fields_eq := rfl
  names_nodup := by decide
  get_put := by simp [cells]
  get_put_of_ne := by simp [cells]
  ext := by
    rintro ⟨url, headers⟩ ⟨url', headers'⟩ h
    simpa [cells] using h
  blank := by simp [cells, Params.shape]

theorem Params.finish_eq_ok_iff {draft : Draft} {p : Params} : Params.shape.finish draft = .ok p ↔
    draft.url = some p.url ∧ p.headers = draft.headers.getD .empty := by
  obtain ⟨url, headers⟩ := p
  cases hurl : draft.url <;>
    simp [Params.shape, Json.required, hurl, bind, Except.bind, pure, Except.pure,
      @eq_comm _ headers]

theorem read_eq_ok_iff {params : Dict Json} {p : Params} :
    (Provider.Params.ofDict params).read Params.shape.decoder = .ok p ↔ Schema params p := by
  rw [Provider.Params.read_eq_ok_iff consists_shape]
  constructor
  · rintro ⟨hkeys, draft, hfinish, hfills⟩
    obtain ⟨hurl, hheaders⟩ := Params.finish_eq_ok_iff.mp hfinish
    obtain ⟨fillsUrl, fillsHeaders⟩ : Decoder.Fills _ none _ _ ∧ Decoder.Fills _ none _ _ := by
      simpa [cells] using hfills
    exact ⟨hkeys, isText_iff_fills.mpr (hurl ▸ fillsUrl),
      isTexts_iff_fills.mpr ⟨_, fillsHeaders, hheaders⟩⟩
  · rintro ⟨hkeys, hurl, hheaders⟩
    obtain ⟨headers?, fillsHeaders, hheaders⟩ := isTexts_iff_fills.mp hheaders
    refine ⟨hkeys, ⟨some p.url, headers?⟩, Params.finish_eq_ok_iff.mpr ⟨rfl, hheaders⟩, ?_⟩
    simpa [cells] using ⟨isText_iff_fills.mp hurl, fillsHeaders⟩

theorem Schema.eq {params : Dict Json} {p q : Params} (hp : Schema params p)
    (hq : Schema params q) : p = q :=
  Except.ok.inj ((read_eq_ok_iff.mpr hp).symm.trans (read_eq_ok_iff.mpr hq))

theorem ofParams_of_schema {params : Dict Json} {p : Params} (name : String)
    (h : Schema params p) : ofParams name (.ofDict params) = (do
      let template ← (UrlTemplate.parse p.url).mapError .template
      return { name, template, headers := p.headers.entries }) := by
  rw [ofParams, read_eq_ok_iff.mpr h]
  rfl

theorem ofParams_of_not_schema {params : Dict Json} (name : String)
    (h : ∀ p, ¬ Schema params p) :
    ∃ cause, ofParams name (.ofDict params) = .error (.params cause) := by
  obtain ⟨cause, hread⟩ := Provider.Params.read_eq_error fun p ↦ mt read_eq_ok_iff.mp (h p)
  exact ⟨cause, by rw [ofParams, hread]; rfl⟩

end Public

namespace Tokens

def cells : List (Cell Draft) :=
  [⟨"url", Draft.url, fun d v ↦ { d with url := v }, false, .string⟩,
    ⟨"token_url", Draft.tokenUrl, fun d v ↦ { d with tokenUrl := v }, false, .string⟩,
    ⟨"client_id", Draft.clientId, fun d v ↦ { d with clientId := v }, true, .option .string⟩,
    ⟨"client_secret", Draft.clientSecret, fun d v ↦ { d with clientSecret := v }, true,
      .option .string⟩,
    ⟨"form", Draft.form, fun d v ↦ { d with form := v }, true, .dict .string⟩,
    ⟨"header", Draft.header, fun d v ↦ { d with header := v }, true, .string⟩,
    ⟨"header_prefix", Draft.headerPrefix, fun d v ↦ { d with headerPrefix := v }, true, .string⟩]

theorem consists_shape : Params.shape.Consists cells where
  closed := rfl
  fields_eq := rfl
  names_nodup := by decide
  get_put := by simp [cells]
  get_put_of_ne := by simp [cells]
  ext := by
    rintro ⟨⟩ ⟨⟩ h
    simpa [cells] using h
  blank := by simp [cells, Params.shape]

theorem Params.finish_eq_ok_iff {draft : Draft} {p : Params} : Params.shape.finish draft = .ok p ↔
    draft.url = some p.url ∧ draft.tokenUrl = some p.tokenUrl ∧
      p.clientId = draft.clientId.getD none ∧ p.clientSecret = draft.clientSecret.getD none ∧
      p.form = draft.form.getD .empty ∧ p.header = draft.header.getD "Authorization" ∧
      p.headerPrefix = draft.headerPrefix.getD "Bearer " := by
  obtain ⟨url, tokenUrl, clientId, clientSecret, form, header, headerPrefix⟩ := p
  cases hurl : draft.url <;> cases htokenUrl : draft.tokenUrl <;>
    simp [Params.shape, Json.required, hurl, htokenUrl, bind, Except.bind, pure, Except.pure,
      @eq_comm _ clientId, @eq_comm _ clientSecret, @eq_comm _ form, @eq_comm _ header,
      @eq_comm _ headerPrefix]

theorem read_eq_ok_iff {params : Dict Json} {p : Params} :
    (Provider.Params.ofDict params).read Params.shape.decoder = .ok p ↔ Schema params p := by
  rw [Provider.Params.read_eq_ok_iff consists_shape]
  constructor
  · rintro ⟨hkeys, draft, hfinish, hfills⟩
    obtain ⟨hurl, htokenUrl, hid, hsecret, hform, hheader, hprefix⟩ :=
      Params.finish_eq_ok_iff.mp hfinish
    simp only [cells, List.forall_mem_cons, List.not_mem_nil, false_implies, implies_true,
      and_true] at hfills
    obtain ⟨fillsUrl, fillsTokenUrl, fillsId, fillsSecret, fillsForm, fillsHeader, fillsPrefix⟩ :=
      hfills
    exact
      { keys := hkeys
        url := isText_iff_fills.mpr (hurl ▸ fillsUrl)
        tokenUrl := isText_iff_fills.mpr (htokenUrl ▸ fillsTokenUrl)
        clientId := isOptionalText_iff_fills.mpr ⟨_, fillsId, hid⟩
        clientSecret := isOptionalText_iff_fills.mpr ⟨_, fillsSecret, hsecret⟩
        form := isTexts_iff_fills.mpr ⟨_, fillsForm, hform⟩
        header := isTextOr_iff_fills.mpr ⟨_, fillsHeader, hheader⟩
        headerPrefix := isTextOr_iff_fills.mpr ⟨_, fillsPrefix, hprefix⟩ }
  · intro h
    obtain ⟨id?, fillsId, hid⟩ := isOptionalText_iff_fills.mp h.clientId
    obtain ⟨secret?, fillsSecret, hsecret⟩ := isOptionalText_iff_fills.mp h.clientSecret
    obtain ⟨form?, fillsForm, hform⟩ := isTexts_iff_fills.mp h.form
    obtain ⟨header?, fillsHeader, hheader⟩ := isTextOr_iff_fills.mp h.header
    obtain ⟨prefix?, fillsPrefix, hprefix⟩ := isTextOr_iff_fills.mp h.headerPrefix
    refine ⟨h.keys, ⟨some p.url, some p.tokenUrl, id?, secret?, form?, header?, prefix?⟩,
      Params.finish_eq_ok_iff.mpr ⟨rfl, rfl, hid, hsecret, hform, hheader, hprefix⟩, ?_⟩
    simp only [cells, List.forall_mem_cons, List.not_mem_nil, false_implies, implies_true,
      and_true]
    exact ⟨isText_iff_fills.mp h.url, isText_iff_fills.mp h.tokenUrl, fillsId, fillsSecret,
      fillsForm, fillsHeader, fillsPrefix⟩

theorem Schema.eq {params : Dict Json} {p q : Params} (hp : Schema params p)
    (hq : Schema params q) : p = q :=
  Except.ok.inj ((read_eq_ok_iff.mpr hp).symm.trans (read_eq_ok_iff.mpr hq))

def Params.server (p : Params) (name : String) (tokenUrl : Url) (template : UrlTemplate) :
    Tokens where
  name
  template
  tokenUrl
  basicAuth := p.clientId.map (basicHeader · (p.clientSecret.getD ""))
  form := p.form.entries
  header := p.header
  headerPrefix := p.headerPrefix

theorem ofParams_of_schema {params : Dict Json} {p : Params} (name : String)
    (h : Schema params p) : ofParams name (.ofDict params) = (do
      let tokenUrl ← (Url.parse p.tokenUrl).mapError (.url "token_url")
      let template ← (UrlTemplate.parse p.url).mapError .template
      return p.server name tokenUrl template) := by
  rw [ofParams, read_eq_ok_iff.mpr h]
  rfl

theorem ofParams_of_not_schema {params : Dict Json} (name : String)
    (h : ∀ p, ¬ Schema params p) :
    ∃ cause, ofParams name (.ofDict params) = .error (.params cause) := by
  obtain ⟨cause, hread⟩ := Provider.Params.read_eq_error fun p ↦ mt read_eq_ok_iff.mp (h p)
  exact ⟨cause, by rw [ofParams, hread]; rfl⟩

end Tokens

/-! ## Providers -/

namespace BuiltIn

theorem build_template_iff (name : String) (params : Dict Json) :
    (∀ provider, build .template name (.ofDict params) = .ok provider ↔
        ∃ p template, Public.Schema params p ∧ UrlTemplate.parse p.url = .ok template ∧
          provider = .plain { name, template, headers := p.headers.entries }) ∧
      ((∃ cause, build .template name (.ofDict params) = .error (.params cause)) ↔
        ∀ p, ¬ Public.Schema params p) ∧
      ∀ fault, build .template name (.ofDict params) = .error (.template fault) ↔
        ∃ p, Public.Schema params p ∧ UrlTemplate.parse p.url = .error fault := by
  by_cases h : ∃ p, Public.Schema params p
  · obtain ⟨p, hp⟩ := h
    have honly : ∀ q, Public.Schema params q ↔ q = p :=
      fun q ↦ ⟨fun hq ↦ hq.eq hp, fun hq ↦ hq ▸ hp⟩
    cases htemplate : UrlTemplate.parse p.url <;>
      simp [build, Public.ofParams_of_schema name hp, honly, htemplate, Except.mapError,
        Except.map, bind, Except.bind, pure, Except.pure, eq_comm]
  · rw [not_exists] at h
    obtain ⟨cause, hcause⟩ := Public.ofParams_of_not_schema name h
    simp [build, hcause, h, Except.map]

theorem build_token_iff (name : String) (params : Dict Json) :
    (∀ provider, build .token name (.ofDict params) = .ok provider ↔
        ∃ p tokenUrl template, Tokens.Schema params p ∧ Url.parse p.tokenUrl = .ok tokenUrl ∧
          UrlTemplate.parse p.url = .ok template ∧
          provider = .tokens (p.server name tokenUrl template)) ∧
      ((∃ cause, build .token name (.ofDict params) = .error (.params cause)) ↔
        ∀ p, ¬ Tokens.Schema params p) ∧
      (∀ field fault, build .token name (.ofDict params) = .error (.url field fault) ↔
        field = "token_url" ∧
          ∃ p, Tokens.Schema params p ∧ Url.parse p.tokenUrl = .error fault) ∧
      ∀ fault, build .token name (.ofDict params) = .error (.template fault) ↔
        ∃ p tokenUrl, Tokens.Schema params p ∧ Url.parse p.tokenUrl = .ok tokenUrl ∧
          UrlTemplate.parse p.url = .error fault := by
  by_cases h : ∃ p, Tokens.Schema params p
  · obtain ⟨p, hp⟩ := h
    have honly : ∀ q, Tokens.Schema params q ↔ q = p :=
      fun q ↦ ⟨fun hq ↦ hq.eq hp, fun hq ↦ hq ▸ hp⟩
    cases htoken : Url.parse p.tokenUrl with
    | error fault =>
        simp [build, Tokens.ofParams_of_schema name hp, honly, htoken, Except.mapError,
          Except.map, bind, Except.bind, eq_comm]
    | ok tokenUrl =>
        cases htemplate : UrlTemplate.parse p.url <;>
          simp [build, Tokens.ofParams_of_schema name hp, honly, htoken, htemplate,
            Except.mapError, Except.map, bind, Except.bind, pure, Except.pure, eq_comm]
  · rw [not_exists] at h
    obtain ⟨cause, hcause⟩ := Tokens.ofParams_of_not_schema name h
    simp [build, hcause, h, Except.map]

/-- A provider is built exactly from parameters that follow the schema of its kind and whose
addresses can be made into something, and it has what they say.  Parameters that do not follow the
schema are refused for that, whatever their addresses are; of those that do, an address for tokens
that is no URL is refused before the template is looked at. -/
theorem build_accepts_schema (name : String) (params : Dict Json) :
    ((∀ provider, build .template name (.ofDict params) = .ok provider ↔
        ∃ p template, Public.Schema params p ∧ UrlTemplate.parse p.url = .ok template ∧
          provider = .plain { name, template, headers := p.headers.entries }) ∧
      ((∃ cause, build .template name (.ofDict params) = .error (.params cause)) ↔
        ∀ p, ¬ Public.Schema params p) ∧
      ∀ fault, build .template name (.ofDict params) = .error (.template fault) ↔
        ∃ p, Public.Schema params p ∧ UrlTemplate.parse p.url = .error fault) ∧
    (∀ provider, build .token name (.ofDict params) = .ok provider ↔
        ∃ p tokenUrl template, Tokens.Schema params p ∧ Url.parse p.tokenUrl = .ok tokenUrl ∧
          UrlTemplate.parse p.url = .ok template ∧
          provider = .tokens (p.server name tokenUrl template)) ∧
      ((∃ cause, build .token name (.ofDict params) = .error (.params cause)) ↔
        ∀ p, ¬ Tokens.Schema params p) ∧
      (∀ field fault, build .token name (.ofDict params) = .error (.url field fault) ↔
        field = "token_url" ∧
          ∃ p, Tokens.Schema params p ∧ Url.parse p.tokenUrl = .error fault) ∧
      ∀ fault, build .token name (.ofDict params) = .error (.template fault) ↔
        ∃ p tokenUrl, Tokens.Schema params p ∧ Url.parse p.tokenUrl = .ok tokenUrl ∧
          UrlTemplate.parse p.url = .error fault :=
  ⟨build_template_iff name params, build_token_iff name params⟩

end BuiltIn

end TileFetch.Provider
