import MetricLayer.Schema.Draft

/-!
# The classroom schema

The built-in schema of a store of classroom telemetry: events, sessions, users, quizzes, content,
and the schools and classrooms they belong to.
-/

namespace MetricLayer.Classroom

/-- The tables with their aliases. -/
def tables : List Table :=
  [⟨"events", "e"⟩, ⟨"sessions", "s"⟩, ⟨"users", "u"⟩, ⟨"quizzes", "q"⟩, ⟨"quiz_sessions", "qs"⟩,
    ⟨"content", "c"⟩, ⟨"schools", "sch"⟩, ⟨"classrooms", "cl"⟩, ⟨"user_classrooms", "uc"⟩]

/-- The tables that a query starts from, the most preferred first. -/
def priority : List String :=
  ["events", "sessions", "users", "quizzes", "quiz_sessions", "content", "schools", "classrooms"]

/-- The measures. -/
def measures : List Measure :=
  [⟨"events.count", "events", .count, "COUNT(*)", "Total number of events"⟩,
    ⟨"events.unique_users", "events", .count, "COUNT(DISTINCT e.user_id)",
      "Number of unique users generating events"⟩,
    ⟨"sessions.count", "sessions", .count, "COUNT(*)", "Total number of sessions"⟩,
    ⟨"sessions.avg_duration", "sessions", .avg, "AVG(s.duration_seconds / 60.0)",
      "Average session duration in minutes"⟩,
    ⟨"sessions.total_duration", "sessions", .sum, "SUM(s.duration_seconds / 60.0)",
      "Total session duration in minutes"⟩,
    ⟨"users.count", "users", .count, "COUNT(*)", "Total number of users"⟩,
    ⟨"users.active_count", "users", .count, "COUNT(u.last_active)",
      "Number of users with recorded activity"⟩,
    ⟨"quizzes.count", "quizzes", .count, "COUNT(*)", "Total number of quizzes"⟩,
    ⟨"quiz_sessions.avg_score", "quiz_sessions", .avg, "AVG(qs.percentage_score)",
      "Average quiz score percentage"⟩,
    ⟨"quiz_sessions.completion_rate", "quiz_sessions", .avg,
      "AVG(CASE WHEN qs.is_completed THEN 1.0 ELSE 0.0 END) * 100",
      "Quiz completion rate percentage"⟩,
    ⟨"content.count", "content", .count, "COUNT(*)", "Total number of content items"⟩,
    ⟨"content.avg_file_size", "content", .avg, "AVG(c.file_size_bytes / 1024.0 / 1024.0)",
      "Average content file size in MB"⟩]

/-- The dimensions. -/
def dimensions : List Dimension :=
  [⟨"time.date", "events", .time, "e.created_at", some .day, "Date of the event"⟩,
    ⟨"time.hour", "events", .time, "e.created_at", some .hour, "Hour of the event"⟩,
    ⟨"time.week", "events", .time, "e.created_at", some .week, "Week of the event"⟩,
    ⟨"time.month", "events", .time, "e.created_at", some .month, "Month of the event"⟩,
    ⟨"users.role", "users", .string, "u.role", none, "User role (teacher, student, admin)"⟩,
    ⟨"users.school_id", "users", .string, "CAST(u.school_id AS TEXT)", none,
      "School identifier"⟩,
    ⟨"events.type", "events", .string, "e.event_type", none, "Type of event"⟩,
    ⟨"events.application", "events", .string, "e.application", none,
      "Application source (whiteboard, notebook)"⟩,
    ⟨"sessions.application", "sessions", .string, "s.application", none,
      "Session application type"⟩,
    ⟨"sessions.start_time", "sessions", .time, "s.start_time", none, "Session start timestamp"⟩,
    ⟨"quiz_sessions.started_at", "quiz_sessions", .time, "qs.started_at", none,
      "Quiz attempt start timestamp"⟩,
    ⟨"content.type", "content", .string, "c.content_type", none, "Type of content"⟩,
    ⟨"schools.name", "schools", .string, "sch.name", none, "School name"⟩,
    ⟨"classrooms.name", "classrooms", .string, "cl.name", none, "Classroom name"⟩,
    ⟨"classrooms.grade_level", "classrooms", .number, "cl.grade_level", none,
      "Classroom grade level"⟩,
    ⟨"classrooms.subject", "classrooms", .string, "cl.subject", none, "Classroom subject"⟩]

/-- The join of classrooms to the table they take place in. -/
def classroomOf (table : String) : JoinStep := ⟨"classrooms", table, "classroom_id", "id"⟩

/-- The join of schools to a table that names them. -/
def schoolOf (table : String) : JoinStep := ⟨"schools", table, "school_id", "id"⟩

/-- The join of users to a table that names them in a column. -/
def userOf (table column : String) : JoinStep := ⟨"users", table, column, "id"⟩

/-- The paths between tables. -/
def paths : List (String × JoinPath) :=
  [("events", ⟨"users", [userOf "events" "user_id"]⟩),
    ("events", ⟨"sessions", [⟨"sessions", "events", "session_id", "id"⟩]⟩),
    ("events", ⟨"classrooms", [classroomOf "events"]⟩),
    ("events", ⟨"schools", [schoolOf "events"]⟩),
    ("sessions", ⟨"users", [userOf "sessions" "user_id"]⟩),
    ("sessions", ⟨"classrooms", [classroomOf "sessions"]⟩),
    ("sessions", ⟨"schools", [classroomOf "sessions", schoolOf "classrooms"]⟩),
    ("users", ⟨"schools", [schoolOf "users"]⟩),
    ("users", ⟨"classrooms",
      [⟨"user_classrooms", "users", "id", "user_id"⟩, classroomOf "user_classrooms"]⟩),
    ("users", ⟨"quiz_sessions", [⟨"quiz_sessions", "users", "id", "student_id"⟩]⟩),
    ("quizzes", ⟨"classrooms", [classroomOf "quizzes"]⟩),
    ("quizzes", ⟨"schools", [classroomOf "quizzes", schoolOf "classrooms"]⟩),
    ("quizzes", ⟨"users", [userOf "quizzes" "creator_id"]⟩),
    ("quizzes", ⟨"quiz_sessions", [⟨"quiz_sessions", "quizzes", "id", "quiz_id"⟩]⟩),
    ("quiz_sessions", ⟨"quizzes", [⟨"quizzes", "quiz_sessions", "quiz_id", "id"⟩]⟩),
    ("quiz_sessions", ⟨"classrooms",
      [⟨"quizzes", "quiz_sessions", "quiz_id", "id"⟩, classroomOf "quizzes"]⟩),
    ("content", ⟨"users", [userOf "content" "creator_id"]⟩),
    ("content", ⟨"classrooms", [classroomOf "content"]⟩),
    ("content", ⟨"schools", [classroomOf "content", schoolOf "classrooms"]⟩),
    ("classrooms", ⟨"schools", [schoolOf "classrooms"]⟩)]

/-- The declarations of the schema. -/
def draft : Draft where
  tables := tables
  measures := measures
  dimensions := dimensions
  joins := paths.foldl (fun g (primary, p) => g.addPath primary p.target p.steps) .empty
  priority := priority
  fallback := some "events"

/-- The registry of the schema. -/
def registry : Except SchemaError Registry := draft.build

end MetricLayer.Classroom
