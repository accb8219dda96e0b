import DbFree.Texts

/- The graph of a workflow document: nodes, what each does, and the edges between them
(model/workflow.rs). -/
namespace DbFree.Workflows

inductive SourceHandle where
  | true
  | false
deriving DecidableEq

structure WorkflowEdge where
  id : Text
  source : Text
  target : Text
  /-- `none` for the only output of a node. -/
  sourceHandle : Option SourceHandle
deriving DecidableEq

inductive ScheduleMode where
  | interval
  | atTime
deriving DecidableEq

inductive IntervalUnit where
  | seconds
  | minutes
  | hours
  | days
deriving DecidableEq

inductive Weekday where
  | mon
  | tue
  | wed
  | thu
  | fri
  | sat
  | sun
deriving DecidableEq

structure ScheduleConfig where
  mode : ScheduleMode
  intervalAmount : UInt32
  intervalUnit : IntervalUnit
  time : Text
  days : List Weekday
  timezone : Text
deriving DecidableEq

structure QueryConfig where
  connectionId : Option Text
  sql : Text
  allowDestructive : Bool
deriving DecidableEq

inductive HttpMethod where
  | get
  | post
  | put
  | patch
  | delete
  | head
deriving DecidableEq

structure HttpConfig where
  method : HttpMethod
  url : Text
  headers : Text
  body : Text
  responsePath : Text
  allowPrivateNetwork : Bool
deriving DecidableEq

structure SaveFileConfig where
  path : Text
  tableName : Text
deriving DecidableEq

structure InsertConfig where
  connectionId : Option Text
  schema : Text
  table : Text
deriving DecidableEq

structure RepeatConfig where
  count : UInt32
deriving DecidableEq

structure NodeSecret where
  sealedValue : Option Text
  hasSecret : Bool
  plain : Option Text
  clear : Bool
  inheritLast : Bool
deriving DecidableEq

inductive SmtpSecurity where
  | auto
  | implicit
  | startTls
  | none
deriving DecidableEq

structure EmailConfig where
  host : Text
  port : UInt16
  security : SmtpSecurity
  username : Text
  password : NodeSecret
  sender : Text
  recipients : Text
  subject : Text
  body : Text
deriving DecidableEq

structure SlackConfig where
  webhook : NodeSecret
  text : Text
deriving DecidableEq

/-- What a node does. The settings that nothing modelled here looks into are left out. -/
inductive NodeConfig where
  | schedule (config : ScheduleConfig)
  | query (config : QueryConfig)
  | http (config : HttpConfig)
  | readFile (path : Text)
  | saveFile (config : SaveFileConfig)
  | insert (config : InsertConfig)
  | filter
  | rowCountGate
  | branch
  | repeat (config : RepeatConfig)
  | delay
  | regex
  | javascript (code : Text)
  | notification (title body : Text)
  | email (config : EmailConfig)
  | slack (config : SlackConfig)
  | note (text : Text)
deriving DecidableEq

def NodeConfig.kindName : NodeConfig → Text
  | .schedule _ => "schedule".toList
  | .query _ => "query".toList
  | .http _ => "http".toList
  | .readFile _ => "read_file".toList
  | .saveFile _ => "save_file".toList
  | .insert _ => "insert".toList
  | .filter => "filter".toList
  | .rowCountGate => "row_count_gate".toList
  | .branch => "branch".toList
  | .repeat _ => "repeat".toList
  | .delay => "delay".toList
  | .regex => "regex".toList
  | .javascript _ => "javascript".toList
  | .notification _ _ => "notification".toList
  | .email _ => "email".toList
  | .slack _ => "slack".toList
  | .note _ => "note".toList

structure WorkflowNode where
  id : Text
  label : Text
  continueOnError : Bool
  config : NodeConfig
deriving DecidableEq

end DbFree.Workflows
