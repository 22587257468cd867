import Dialogue.Format.Fill
/-!
The notices shown to users, in Korean and English.
-/
namespace Dialogue

inductive Notice where
  | completionFailed
  | unexpected
  | timeout
  | scenarioMissing
  | email
  | phone
  | format
  | badPattern
  | dateRange
  | dateAfter
  | dateBefore
  | ended
  deriving DecidableEq, Repr

namespace Notice

def all : List Notice := [
  .completionFailed, .unexpected, .timeout, .scenarioMissing, .email, .phone, .format,
  .badPattern, .dateRange, .dateAfter, .dateBefore, .ended]

/-- The name under which a notice is looked up. -/
def key : Notice → String
  | .completionFailed => "errorLLMFail"
  | .unexpected => "errorUnexpected"
  | .timeout => "errorTimeout"
  | .scenarioMissing => "errorScenarioNotFound"
  | .email => "validationEmail"
  | .phone => "validationPhone"
  | .format => "validationFormat"
  | .badPattern => "validationRegexError"
  | .dateRange => "validationDateRange"
  | .dateAfter => "validationDateAfter"
  | .dateBefore => "validationDateBefore"
  | .ended => "scenarioEnded"

def ofKey? (s : String) : Option Notice := all.find? (·.key = s)

def korean : Notice → String
  | .completionFailed => "응답에 문제가 발생했습니다. 잠시 후 다시 시도해주세요."
  | .unexpected => "예상치 못한 오류가 발생했습니다. 다시 시도해주세요."
  | .timeout => "응답 시간이 초과되었습니다. 다시 시도해주세요."
  | .scenarioMissing => "연결된 시나리오를 찾을 수 없습니다. 숏컷 목록 편집 페이지에서 해당 숏컷을 확인해주세요."
  | .email => "유효한 이메일 주소를 입력해주세요."
  | .phone => "유효한 전화번호(XXX-XXXX-XXXX)를 입력해주세요."
  | .format => "입력 형식이 올바르지 않습니다."
  | .badPattern => "시나리오에 설정된 정규식이 올바르지 않습니다."
  | .dateRange => "'\x7bstart_date\x7d'와 '\x7bend_date\x7d' 사이의 날짜를 입력해주세요."
  | .dateAfter => "오늘 또는 미래의 날짜를 선택해야 합니다."
  | .dateBefore => "오늘 또는 과거의 날짜를 선택해야 합니다."
  | .ended => "'\x7bscenario_id\x7d' 시나리오가 종료되었습니다."

def english : Notice → String
  | .completionFailed => "There was a problem with the response. Please try again later."
  | .unexpected => "An unexpected error occurred. Please try again."
  | .timeout => "The request timed out. Please try again."
  | .scenarioMissing =>
      "The linked scenario could not be found. Please check the shortcut in the " ++
        "scenario menu edit page."
  | .email => "Please enter a valid email address."
  | .phone => "Please enter a valid phone number (e.g., XXX-XXXX-XXXX)."
  | .format => "The input format is incorrect."
  | .badPattern => "The regular expression set in the scenario is invalid."
  | .dateRange => "Please enter a date between \x7bstart_date\x7d and \x7bend_date\x7d."
  | .dateAfter => "You must select today or a future date."
  | .dateBefore => "You must select today or a past date."
  | .ended => "Scenario '\x7bscenario_id\x7d' has ended."

/-- The language of sessions that name none. -/
def defaultLanguage : String := "ko"

/-- Languages without notices of their own show the English ones. -/
def template (notice : Notice) (language : String) : String :=
  if language = "ko" then notice.korean else notice.english

/-- A template with fields filled in; without any the template is shown as it is. -/
def complete (template : String) (args : Mapping Value) : Except Fault String :=
  if args.isEmpty then .ok template else Format.fill template args

def render (notice : Notice) (language : String) (args : Mapping Value) : Except Fault String :=
  complete (notice.template language) args

/-- The notice looked up under a name; an unknown name stands for itself. -/
def lookup (name language : String) (args : Mapping Value) : Except Fault String :=
  if Mapping.has args "key" || Mapping.has args "language" then
    .error (.clash .repeatedArgument)
  else
    match ofKey? name with
    | some notice => notice.render language args
    | none => complete name args

/-- A notice without fields. -/
def text (notice : Notice) (language : String) : String := notice.template language

end Notice

end Dialogue
