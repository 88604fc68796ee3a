import Formwork.Message.Template

/-!
# Message catalogs

For every reason to refuse a value there is a template in each language.
-/

namespace Formwork

/-- The languages that messages come in. -/
inductive Locale where
  | english
  | chinese
deriving DecidableEq

namespace Locale

def tag : Locale → String
  | english => "en-US"
  | chinese => "zh-CN"

/-- The language of a tag; English where none is named or it is another one. -/
def resolve (tag : Option String) : Locale := if tag = some "zh-CN" then chinese else english

end Locale

/-- Why a value or a submission is refused. -/
inductive Reason where
  | required
  | invalidType
  | invalidBoolean
  | invalidNumber
  | invalidDate
  | invalidOption
  | emptySelection
  | duplicateSelection
  | invalidEmail
  | invalidUrl
  | invalidPhone
  | tooSmall
  | tooBig
  | invalidPayload
deriving DecidableEq

namespace Reason

def code : Reason → String
  | required => "required"
  | invalidType => "invalid_type"
  | invalidBoolean => "invalid_boolean"
  | invalidNumber => "invalid_number"
  | invalidDate => "invalid_date"
  | invalidOption => "invalid_option"
  | emptySelection => "empty_selection"
  | duplicateSelection => "duplicate_selection"
  | invalidEmail => "invalid_email"
  | invalidUrl => "invalid_url"
  | invalidPhone => "invalid_phone"
  | tooSmall => "too_small"
  | tooBig => "too_big"
  | invalidPayload => "invalid_payload"

def all : List Reason :=
  [required, invalidType, invalidBoolean, invalidNumber, invalidDate, invalidOption, emptySelection,
    duplicateSelection, invalidEmail, invalidUrl, invalidPhone, tooSmall, tooBig, invalidPayload]

/-- The reason with a code. -/
def ofCode? (code : String) : Option Reason := all.find? (·.code == code)

def english : Reason → Template
  | required => [.slot .label, .words " is required"]
  | invalidType => [.slot .label, .words " must be ", .slot .expected]
  | invalidBoolean =>
    [.slot .label, .words " must be a boolean-like value, got ", .slot .received]
  | invalidNumber => [.slot .label, .words " must be a number"]
  | invalidDate => [.slot .label, .words " must be a valid date"]
  | invalidOption => [.slot .label, .words " must be one of: ", .slot .allowed]
  | emptySelection => [.words "Select at least one option for ", .slot .label]
  | duplicateSelection =>
    [.slot .label, .words " contains ", .slot .value, .words " more than once"]
  | invalidEmail => [.slot .label, .words " must be a valid email address"]
  | invalidUrl => [.slot .label, .words " must be a valid URL"]
  | invalidPhone => [.slot .label, .words " must be a valid phone number"]
  | tooSmall => [.slot .label, .words " must be at least ", .slot .minimum]
  | tooBig => [.slot .label, .words " must be at most ", .slot .maximum]
  | invalidPayload => [.words "Submission must be an object"]

def chinese : Reason → Template
  | required => [.slot .label, .words "不能为空"]
  | invalidType => [.slot .label, .words "类型错误，应为", .slot .expected]
  | invalidBoolean => [.slot .label, .words "必须是布尔值，收到 ", .slot .received]
  | invalidNumber => [.slot .label, .words "必须是数字"]
  | invalidDate => [.slot .label, .words "日期无效"]
  | invalidOption => [.slot .label, .words "必须是以下选项之一：", .slot .allowed]
  | emptySelection => [.slot .label, .words "至少选择一项"]
  | duplicateSelection => [.slot .label, .words "中的", .slot .value, .words "重复"]
  | invalidEmail => [.slot .label, .words "格式无效"]
  | invalidUrl => [.slot .label, .words "URL格式无效"]
  | invalidPhone => [.words "请输入有效的", .slot .label]
  | tooSmall => [.slot .label, .words "不能小于", .slot .minimum]
  | tooBig => [.slot .label, .words "不能大于", .slot .maximum]
  | invalidPayload => [.words "提交的数据必须是对象"]

/-- The template of a reason in a language. -/
def template (r : Reason) : Locale → Template
  | .english => r.english
  | .chinese => r.chinese

end Reason

/-- The message of a code. A code without a template is its own message. -/
def message (locale : Locale) (code : String) (texts : Slot → Option String) : String :=
  match Reason.ofCode? code with
  | some r => (r.template locale).fill texts
  | none => code

end Formwork
