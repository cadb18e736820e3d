import CatalogView.Proofs.Url.Form
import CatalogView.Proofs.Url.Reference
import CatalogView.Proofs.Url.Site
import CatalogView.Slack.Endpoint

/-!
# What the catalog is asked

The endpoint is found at the site of the base, whatever else the base names, and what is asked there
depends on the resource key alone. `key_asked_unharmed` says how the key stands in the line that is
sent and that it is read back from there byte for byte.
-/

namespace CatalogView.Slack

open CatalogView.Http CatalogView.Text CatalogView.Url

/-- The segments of the path of the endpoint. -/
def messagesSegments : List (List Char) :=
  ["api".toList, "stemma".toList, "slack".toList, "v1".toList, "messages".toList]

/-- The endpoint at the site of an address. -/
def endpointAt (site : Url) : Url :=
  { site with path := .rooted messagesSegments, query? := none, fragment? := none }

/-- What stands in the line of a request before the resource key. -/
def questionFront : List Char := "GET /api/stemma/slack/v1/messages?key=".toList

/-- The line by which the catalog is asked for the conversations about a resource. -/
def question (key : String) : List Char :=
  questionFront ++ Form.encode key.toList ++ " HTTP/1.1".toList

variable {base : String} {site messages : Url}

/-- The segments of the endpoint can stand in a path. -/
theorem messages_path_plain : IsPlain "api".toList messagesSegments.tail where
  literal := by decide +kernel
  ending := by
    intro c hc
    have hlast : (spelling "api".toList messagesSegments.tail).getLast? = some 's' := by decide
    rw [hlast] at hc
    obtain rfl := Option.some.inj hc
    decide

/-- The endpoint is found at the site of the base. -/
theorem messages_url_eq (hbase : Url.parse base.toList = .ok site) (hhttp : site.IsHttp) :
    messagesUrl base = .ok (endpointAt site) := by
  obtain ⟨segments, hpath⟩ := parse_rooted hbase hhttp.kind
  have hbegins : BeginsSegment (spelling "api".toList messagesSegments.tail) :=
    ⟨'a', _, rfl, by decide, by decide⟩
  have hspelled : messagesPath.toList = '/' :: spelling "api".toList messagesSegments.tail := by
    decide
  have hencoded : ("api".toList :: messagesSegments.tail).map (Percent.encode Percent.path) =
      messagesSegments := by decide
  have hjoin := join_of_plain hhttp.kind hpath hbegins messages_path_plain
  rw [hencoded, ← hspelled] at hjoin
  have hplaced : site.withPath messagesSegments
      ⟨spelling "api".toList messagesSegments.tail, none, none⟩ = endpointAt site := by
    simp only [withPath, pathOf, hhttp.kind, reduceCtorEq, if_false, endpointAt]
  rw [hplaced] at hjoin
  show ((Url.parse base.toList).mapError EndpointError.base >>= fun url =>
    (url.join messagesPath.toList).mapError EndpointError.path) = _
  rw [hbase]
  show (site.join messagesPath.toList).mapError EndpointError.path = _
  rw [hjoin]
  rfl

/-- The request to an endpoint is written in one line, which does not depend on its site. -/
theorem request_line_endpoint (site : Url) (key : String) :
    requestLine (requestUrl (endpointAt site) key) = question key := by
  have hfront : "GET ".toList ++ ((UrlPath.rooted messagesSegments).text ++
      '?' :: (Form.encode "key".toList ++ ['='])) = questionFront := by decide
  show "GET ".toList ++ ((UrlPath.rooted messagesSegments).text ++
    '?' :: (Form.encode "key".toList ++ '=' :: Form.encode key.toList)) ++ " HTTP/1.1".toList = _
  rw [question, ← hfront]
  simp only [List.append_assoc, List.cons_append, List.nil_append]

/-- Different keys are asked for by different lines. -/
theorem question_injective {key other : String} (h : question key = question other) :
    key = other := by
  have hkey := List.append_cancel_left (List.append_cancel_right h)
  exact String.toList_inj.1 (Form.encode_injective hkey)

/-- At every base of the web the endpoint has the base's scheme, user, host and port, its own path
and nothing behind that. A fetch sends there the one line in which the key is the only field, and it
ends by what `backend` gives for this line: the bytes of the last answer, or nothing, as where the
client refuses the address because it is too long. The field for the key is made of harmless
characters and is read back as the key, byte for byte; and the line is the same for two keys, at one
base or at two, if and only if the keys are the same. -/
theorem key_asked_unharmed (hbase : Url.parse base.toList = .ok site) (hhttp : site.IsHttp) :
    ∃ messages, messagesUrl base = .ok messages ∧
      -- where the endpoint is
      (messages.SameSite site ∧ messages.path.text = messagesPath.toList ∧
        messages.query? = none ∧ messages.fragment? = none) ∧
      -- what is sent there
      (∀ key : String,
        let field := Form.encode key.toList
        (requestUrl messages key).SameSite site ∧
        requestLine (requestUrl messages key) =
          "GET /api/stemma/slack/v1/messages?key=".toList ++ field ++ " HTTP/1.1".toList ∧
        (∀ backend, fetch messages backend key =
          outcomeOf ((backend (requestLine (requestUrl messages key))).bind Response.read?)) ∧
        Form.IsField field ∧ Form.decode field = Utf8.encode key.toList) ∧
      -- what it depends on
      (∀ (otherBase : String) otherSite, Url.parse otherBase.toList = .ok otherSite →
        otherSite.IsHttp → ∃ otherMessages, messagesUrl otherBase = .ok otherMessages ∧
          ∀ key other : String,
            requestLine (requestUrl messages key) =
              requestLine (requestUrl otherMessages other) ↔ key = other) := by
  refine ⟨endpointAt site, messages_url_eq hbase hhttp,
    ⟨⟨rfl, rfl, rfl, rfl, rfl⟩, ?_, rfl, rfl⟩, fun key => ?_,
    fun otherBase otherSite hother hotherHttp => ?_⟩
  · have hpath : (UrlPath.rooted messagesSegments).text = messagesPath.toList := by decide
    exact hpath
  · exact ⟨⟨rfl, rfl, rfl, rfl, rfl⟩, request_line_endpoint site key, fun _ => rfl,
      Form.encode_is_field key.toList, Form.decode_encode key.toList⟩
  · refine ⟨endpointAt otherSite, messages_url_eq hother hotherHttp, fun key other => ?_⟩
    rw [request_line_endpoint, request_line_endpoint]
    exact ⟨question_injective, congrArg question⟩

/-- A base with a user, a port, a path, a query and a fragment. -/
def crowdedBase : String := "http://ann:pw@[::1]:8080/a/b?key=q#f"

/-- The address that this base is read as. -/
def crowdedSite : Url :=
  { scheme := "http".toList, username := "ann".toList, password := "pw".toList
    host? := some (.ipv6 [0, 0, 0, 0, 0, 0, 0, 1]), port? := some 8080
    path := .rooted ["a".toList, "b".toList], query? := some "key=q".toList
    fragment? := some "f".toList }

/-- Only the user and the port of such a base are kept, and a key with a blank, all signs of a query
and a letter beyond ASCII gets there. -/
theorem odd_key_asked_unharmed :
    Url.parse crowdedBase.toList = .ok crowdedSite ∧ crowdedSite.IsHttp ∧
      ∃ messages, messagesUrl crowdedBase = .ok messages ∧ messages.SameSite crowdedSite ∧
        requestLine (requestUrl messages "a +%&=#é") =
          "GET /api/stemma/slack/v1/messages?key=a+%2B%25%26%3D%23%C3%A9 HTTP/1.1".toList ∧
        Form.decode "a+%2B%25%26%3D%23%C3%A9".toList = Utf8.encode "a +%&=#é".toList := by
  have hbase : Url.parse crowdedBase.toList = .ok crowdedSite := by decide +kernel
  have hhttp : crowdedSite.IsHttp := .inl rfl
  have hfield : Form.encode "a +%&=#é".toList = "a+%2B%25%26%3D%23%C3%A9".toList := by
    decide +kernel
  obtain ⟨messages, hmessages, ⟨hsame, -⟩, hsent, -⟩ := key_asked_unharmed hbase hhttp
  obtain ⟨-, hline, -, -, hread⟩ := hsent "a +%&=#é"
  rw [hfield] at hline hread
  refine ⟨hbase, hhttp, messages, hmessages, hsame, hline.trans ?_, hread⟩
  decide +kernel

end CatalogView.Slack
