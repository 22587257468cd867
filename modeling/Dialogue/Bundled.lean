/-!
The documents that come with the service: its settings and two example scenarios.
-/
namespace Dialogue.Bundled

def document (lines : List String) : String := "\n".intercalate lines

def settingsLines : List String := [
  "app_name: \"ScenarioEngine\"",
  "debug: false",
  "llm:",
  "  provider: \"anthropic\"",
  "  model: \"claude-sonnet-4-20250514\"",
  "  temperature: 0.7",
  "  max_tokens: 1024",
  "  api_key: \"$\x7bLLM_API_KEY\x7d\"",
  "  flowise_url: \"$\x7bFLOWISE_API_URL\x7d\"",
  "  timeout_seconds: 30",
  "database:",
  "  store_backend: \"memory\"",
  "  store_file_dir: \"./data\"",
  "scenario:",
  "  scenario_dir: \"./scenarios_data\"",
  "  max_steps: 100",
  "  turn_timeout_seconds: 60",
  "  api_base_url: \"http://localhost:3000\"",
  "  http_timeout_seconds: 30",
  "  default_language: \"ko\"",
  "  categories:",
  "    - name: \"Support\"",
  "      subCategories:",
  "        - title: \"Account\"",
  "          items:",
  "            - title: \"Greeting\"",
  "              action: \x7b type: \"scenario\", value: \"greeting\" \x7d",
  "            - title: \"Order lookup\"",
  "              action: \x7b type: \"scenario\", value: \"order_lookup\" \x7d",
  "logging:",
  "  level: \"INFO\"",
  "  format: \"console\""]

def settings : String := document settingsLines

def greetingLines : List String := [
  "\x7b",
  "  \"id\": \"greeting\",",
  "  \"name\": \"Greeting\",",
  "  \"description\": \"Asks for the user's name and says goodbye.\",",
  "  \"startNodeId\": \"ask_name\",",
  "  \"nodes\": [",
  "    \x7b",
  "      \"id\": \"ask_name\",",
  "      \"type\": \"slotfilling\",",
  "      \"data\": \x7b \"content\": \"What is your name?\", \"slot\": \"name\" \x7d",
  "    \x7d,",
  "    \x7b",
  "      \"id\": \"say_bye\",",
  "      \"type\": \"message\",",
  "      \"data\": \x7b \"content\": \"Bye \x7bname\x7d\" \x7d",
  "    \x7d",
  "  ],",
  "  \"edges\": [",
  "    \x7b \"id\": \"e1\", \"source\": \"ask_name\", \"target\": \"say_bye\" \x7d",
  "  ]",
  "\x7d"]

def orderLines : List String := [
  "id: order_lookup",
  "name: Order lookup",
  "description: Looks up an order by number and reports its status.",
  "startNodeId: ask_order",
  "nodes:",
  "  - id: ask_order",
  "    type: slotfilling",
  "    data:",
  "      content: \"Please enter your order number (e.g. ORD-1234).\"",
  "      slot: orderId",
  "      validation:",
  "        type: custom",
  "        regex: \"^ORD-\\\\d\x7b4\x7d$\"",
  "        errorMessage: \"Order numbers look like ORD-1234.\"",
  "  - id: fetch_order",
  "    type: api",
  "    data:",
  "      method: GET",
  "      url: \"/api/orders/\x7borderId\x7d\"",
  "      responseMapping:",
  "        - \x7b path: \"status\", slot: \"orderStatus\" \x7d",
  "        - \x7b path: \"eta\", slot: \"eta\" \x7d",
  "  - id: check_status",
  "    type: branch",
  "    data:",
  "      evaluationType: CONDITION",
  "      conditions:",
  "        - \x7b id: shipped, slot: orderStatus, operator: \"==\", value: \"shipped\" \x7d",
  "  - id: shipped_msg",
  "    type: message",
  "    data:",
  "      content: \"Order \x7borderId\x7d has shipped and arrives \x7beta\x7d.\"",
  "  - id: pending_msg",
  "    type: message",
  "    data:",
  "      content: \"Order \x7borderId\x7d is \x7borderStatus\x7d.\"",
  "  - id: api_failed",
  "    type: toast",
  "    data:",
  "      message: \"Could not look up \x7borderId\x7d: \x7bapiError\x7d\"",
  "      toastType: error",
  "edges:",
  "  - \x7b source: ask_order, target: fetch_order \x7d",
  "  - \x7b source: fetch_order, sourceHandle: onSuccess, target: check_status \x7d",
  "  - \x7b source: fetch_order, sourceHandle: onError, target: api_failed \x7d",
  "  - \x7b source: check_status, sourceHandle: shipped, target: shipped_msg \x7d",
  "  - \x7b source: check_status, sourceHandle: default, target: pending_msg \x7d"]

/-- The example scenarios by file name. -/
def scenarios : List (String × String) := [
  ("greeting.json", document greetingLines),
  ("order_lookup.yaml", document orderLines)]

end Dialogue.Bundled
