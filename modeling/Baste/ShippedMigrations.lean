import Baste.Migrator

/-!
# The shipped migrations

The files of the migrations directory, line by line.  A text of lines is split
at its lines again, so the statements of a file can be read off the lines that
are neither blank nor comments.
-/

namespace Baste

/-- The file with these lines. -/
def MigrationFile.ofLines (name : String) (lines : List String) :
    MigrationFile where
  name := name
  text := String.ofList (lines.flatMap fun line => line.toList ++ ['\n'])

namespace Migrator

open ChargeService (splitLines strip isLineBoundary)

section Lines

/-- No character ends a line before its end. -/
def IsLine (line : List Char) : Prop :=
  ∀ char ∈ line, isLineBoundary char = false

instance (line : List Char) : Decidable (IsLine line) :=
  inferInstanceAs (Decidable (∀ char ∈ line, _))

theorem splitLines_line {line : List Char} (isLine : IsLine line)
    (current rest : List Char) :
    splitLines current (line ++ '\n' :: rest) =
      (current.reverse ++ line) :: splitLines [] rest := by
  induction line generalizing current with
  | nil => simp [splitLines, isLineBoundary]
  | cons char line ih =>
      have inside : isLineBoundary char = false := isLine char (by simp)
      have noReturn : char ≠ '\r' := by
        rintro rfl
        revert inside
        decide
      have later : IsLine line := fun other member =>
        isLine other (List.mem_cons_of_mem _ member)
      rw [List.cons_append, splitLines, if_neg (by simp [inside]), ih later]
      · simp
      · intro others same
        exact absurd same noReturn

theorem splitLines_lines {lines : List (List Char)}
    (areLines : ∀ line ∈ lines, IsLine line) :
    splitLines [] (lines.flatMap (· ++ ['\n'])) = lines := by
  induction lines with
  | nil => rfl
  | cons line lines ih =>
      have first := splitLines_line (areLines line (by simp)) []
        (lines.flatMap (· ++ ['\n']))
      have later := ih fun other member =>
        areLines other (List.mem_cons_of_mem _ member)
      rw [List.flatMap_cons, List.append_assoc, List.singleton_append, first,
        later]
      rfl

end Lines

/-- The line is neither blank nor a comment. -/
def isKept (line : List Char) : Bool :=
  !(['-', '-'].isPrefixOf (strip line) || (strip line).isEmpty)

/-- The characters of a text that is written out are found by unification. -/
theorem isLine_ofList {line : List Char}
    (isLine : (line.all (!isLineBoundary ·)) = true) :
    IsLine (String.ofList line).toList := by
  rw [String.toList_ofList]
  intro char member
  simpa using List.all_eq_true.mp isLine char member

theorem not_isKept_ofList {line : List Char} (dropped : isKept line = false) :
    isKept (String.ofList line).toList = false := by
  rw [String.toList_ofList]
  exact dropped

theorem statements_ofLines {name : String} {lines : List String}
    (areLines : ∀ line ∈ lines, IsLine line.toList) :
    (MigrationFile.ofLines name lines).statements =
      (((((['\n'] : List Char).intercalate
        ((lines.map String.toList).filter isKept)).splitOn ';').map
          strip).filter (!·.isEmpty)).map String.ofList := by
  have text : (MigrationFile.ofLines name lines).text.toList =
      (lines.map String.toList).flatMap (· ++ ['\n']) := by
    rw [MigrationFile.ofLines, String.toList_ofList, List.flatMap_map]
  have split : splitLines [] (MigrationFile.ofLines name lines).text.toList =
      lines.map String.toList := by
    rw [text]
    apply splitLines_lines
    intro line member
    obtain ⟨text, isLine, rfl⟩ := List.mem_map.mp member
    exact areLines text isLine
  rw [MigrationFile.statements, splitStatements, split]
  rfl

/-- The first line that is kept is a statement, if it ends one. -/
theorem mem_statements_ofLines {name : String} {lines : List String}
    {statement : List Char} (index : Nat)
    (areLines : ∀ line ∈ lines, IsLine line.toList)
    (dropped : ∀ line ∈ lines.take index, isKept line.toList = false)
    (found : lines[index]? = some (String.ofList (statement ++ [';'])))
    (kept : isKept (statement ++ [';']) = true)
    (whole : ';' ∉ statement) (stripped : strip statement = statement)
    (some : statement ≠ []) :
    String.ofList statement ∈
      (MigrationFile.ofLines name lines).statements := by
  obtain ⟨rest, first⟩ : ∃ rest, (lines.map String.toList).filter isKept =
      (statement ++ [';']) :: rest := by
    obtain ⟨inside, isThere⟩ := List.getElem?_eq_some_iff.mp found
    have isFirst : lines[index].toList = statement ++ [';'] := by
      rw [isThere, String.toList_ofList]
    have comments : (lines.take index).filter (isKept ∘ String.toList) = [] :=
      List.filter_eq_nil_iff.mpr fun line member =>
        Bool.eq_false_iff.mp (dropped line member)
    have split : lines =
        lines.take index ++ lines[index] :: lines.drop (index + 1) := by
      rw [← List.drop_eq_getElem_cons inside, List.take_append_drop]
    rw [split, List.filter_map, List.filter_append, comments,
      List.filter_cons_of_pos (by rw [Function.comp_apply, isFirst, kept])]
    exact ⟨_, congrArg (· :: _) isFirst⟩
  obtain ⟨others, cleaned⟩ : ∃ others,
      (['\n'] : List Char).intercalate ((statement ++ [';']) :: rest) =
        statement ++ ';' :: others := by
    cases rest with
    | nil => exact ⟨[], by simp⟩
    | cons line rest =>
        exact ⟨'\n' :: (['\n'] : List Char).intercalate (line :: rest),
          by simp [List.intercalate]⟩
  have split : (statement ++ ';' :: others).splitOn ';' =
      statement :: others.splitOn ';' := by
    rw [List.splitOn_eq_splitOnP]
    apply List.splitOnP_append_cons_of_forall_mem
    · intro char member
      apply beq_false_of_ne
      rintro rfl
      exact whole member
    · rfl
  rw [statements_ofLines areLines, first, cleaned, split]
  apply List.mem_map_of_mem
  apply List.mem_filter.mpr
  constructor
  · rw [List.map_cons, stripped]
    exact List.mem_cons_self
  · simpa using some

end Migrator

def phase3File : MigrationFile :=
  .ofLines "0001_schema_phase3.sql" [
    "-- ==========================================================================",
    "-- جدول‌های فاز ۳",
    "-- ==========================================================================",
    "",
    "-- پرداخت قبوض: جدا از orders نگه داشته می‌شود چون بسته/دسته‌ی مشخصی ندارد و",
    "-- مبلغ را خود مشتری وارد می‌کند (شماره قبض + مبلغ)، نه یک sale_price ثابت.",
    "CREATE TABLE IF NOT EXISTS bill_payments (",
    "    id            INT AUTO_INCREMENT PRIMARY KEY,",
    "    bill_code     VARCHAR(32) NOT NULL,        -- شناسه یکتا مثل orders: <PREFIX>-B-YYMMDD-HHMM",
    "    reseller_id   INT NOT NULL,",
    "    customer_id   INT NOT NULL,",
    "    bill_id_number VARCHAR(64) NOT NULL,        -- شناسه قبض که مشتری وارد کرده",
    "    amount        DECIMAL(14,2) NOT NULL,",
    "    status        ENUM('awaiting_receipt_review','confirmed','paid','rejected') NOT NULL",
    "                  DEFAULT 'awaiting_receipt_review',",
    "    receipt_image VARCHAR(255) NULL,",
    "    created_at    DATETIME NOT NULL DEFAULT CURRENT_TIMESTAMP,",
    "    paid_at       DATETIME NULL,",
    "    FOREIGN KEY (reseller_id) REFERENCES resellers(id) ON DELETE CASCADE,",
    "    FOREIGN KEY (customer_id) REFERENCES customers(id),",
    "    UNIQUE KEY uq_bill_code (bill_code)",
    ") ENGINE=InnoDB;",
    "",
    "-- تاریخچه‌ی بک‌آپ‌های گرفته‌شده (برای پیگیری، نه خود فایل بک‌آپ)",
    "CREATE TABLE IF NOT EXISTS backup_logs (",
    "    id           INT AUTO_INCREMENT PRIMARY KEY,",
    "    taken_by_telegram_id BIGINT NOT NULL,",
    "    file_size_bytes BIGINT NULL,",
    "    note         VARCHAR(255) NULL,",
    "    created_at   DATETIME NOT NULL DEFAULT CURRENT_TIMESTAMP",
    ") ENGINE=InnoDB;"]

def phase4Lines : List String := [
    "-- ==========================================================================",
    "-- فاز ۴ — طبق درخواست جدید:",
    "--   ۱. حذف بخش‌های قبوض/VPN/درخواست‌فروش‌شارژ (فقط UI/handler حذف شده؛ جدول‌های",
    "--      قدیمی feature_flags / bill_payments / global_settings دست‌نخورده باقی",
    "--      می‌مانند تا داده‌ی قبلی از بین نرود، ولی دیگر از هیچ‌کجای ربات صدا زده",
    "--      نمی‌شوند).",
    "--   ۲. تقسیم کاتالوگ نماینده به دو بخش «بسته‌ی اینترنتی» و «شارژ» (همون",
    "--      ساختار پوشه‌ای/جدول‌های categories و packages، فقط با یک ستون تشخیص نوع).",
    "--   ۳. فیچر «خرید شارژ سطح» برای مشتری + مدیریت موجودی کد شارژ برای نماینده.",
    "--",
    "-- این فایل را (بعد از schema.sql و schema_phase3.sql) روی دیتابیس موجود اجرا کنید:",
    "--   mysql -h \"$MYSQLHOST\" -u \"$MYSQLUSER\" -p\"$MYSQLPASSWORD\" \"$MYSQLDATABASE\" < database/schema_phase4.sql",
    "-- ==========================================================================",
    "",
    "-- تشخیص اینکه یک «پوشه» (اپراتور یا زیرپوشه) مربوط به کاتالوگ بسته‌ی اینترنتی",
    "-- است یا کاتالوگ شارژ. زیرپوشه‌ها از پوشه‌ی اصلی همین مقدار را به ارث می‌برند",
    "-- (هندلرها موقع ساخت زیرپوشه، catalog_type اپراتور والد را کپی می‌کنند).",
    "ALTER TABLE categories ADD COLUMN IF NOT EXISTS catalog_type ENUM('package','charge') NOT NULL DEFAULT 'package';",
    "",
    "-- تشخیص نوع سفارش (بسته‌ی اینترنتی معمولی، یا شارژ سطحی که با تحویل خودکار کد",
    "-- انجام می‌شود) + خود کد تحویل‌داده‌شده (برای پیگیری/گزارش).",
    "ALTER TABLE orders ADD COLUMN IF NOT EXISTS order_type ENUM('package','charge') NOT NULL DEFAULT 'package';",
    "ALTER TABLE orders ADD COLUMN IF NOT EXISTS delivered_charge_code VARCHAR(128) NULL;",
    "",
    "-- موجودی کدهای شارژ هر «محصول شارژ» (که خودش یک ردیف در جدول packages است،",
    "-- داخل یک زیرپوشه‌ی کاتالوگ نوع 'charge'). هر کد فقط یک‌بار قابل فروش است.",
    "CREATE TABLE IF NOT EXISTS charge_codes (",
    "    id                   INT AUTO_INCREMENT PRIMARY KEY,",
    "    reseller_id          INT NOT NULL,",
    "    package_id           INT NOT NULL,",
    "    code                 VARCHAR(128) NOT NULL,",
    "    status               ENUM('available','sold') NOT NULL DEFAULT 'available',",
    "    added_at             DATETIME NOT NULL DEFAULT CURRENT_TIMESTAMP,",
    "    sold_at              DATETIME NULL,",
    "    sold_to_customer_id  INT NULL,",
    "    sold_order_id        INT NULL,",
    "    FOREIGN KEY (reseller_id) REFERENCES resellers(id) ON DELETE CASCADE,",
    "    FOREIGN KEY (package_id) REFERENCES packages(id) ON DELETE CASCADE,",
    "    INDEX idx_package_status (package_id, status)",
    ") ENGINE=InnoDB;"]

def phase4File : MigrationFile :=
  .ofLines "0002_schema_phase4.sql" phase4Lines

def customerWalletFile : MigrationFile :=
  .ofLines "0003_migration_customer_wallet.sql" [
    "-- Migration: کیف‌پول مشتری + پرداخت خودکار بسته از کیف‌پول",
    "-- روی دیتابیس‌های قبلاً ساخته‌شده اجرا کنید (بعد از schema.sql و schema_phase3.sql).",
    "-- نیازمند MySQL 8.0.29+ برای ADD COLUMN IF NOT EXISTS. اگر نسخه قدیمی‌تر دارید",
    "-- و خطا گرفتید، بخش IF NOT EXISTS را حذف کنید (فقط یک‌بار قابل اجراست).",
    "",
    "ALTER TABLE customers",
    "    ADD COLUMN IF NOT EXISTS wallet_balance DECIMAL(14,2) NOT NULL DEFAULT 0.00;",
    "",
    "ALTER TABLE orders",
    "    ADD COLUMN IF NOT EXISTS paid_from_wallet BOOLEAN NOT NULL DEFAULT FALSE;",
    "",
    "CREATE TABLE IF NOT EXISTS customer_wallet_topups (",
    "    id            INT AUTO_INCREMENT PRIMARY KEY,",
    "    reseller_id   INT NOT NULL,",
    "    customer_id   INT NOT NULL,",
    "    amount        DECIMAL(14,2) NOT NULL,",
    "    method        ENUM('card', 'zarinpal') NOT NULL,",
    "    receipt_image VARCHAR(255) NULL,",
    "    status        ENUM(",
    "                      'pending',",
    "                      'confirmed',",
    "                      'confirmed_insufficient_credit',  -- شارژ شد ولی کسر کمیسیون نماینده به‌خاطر کمبود اعتبار ناموفق بود",
    "                      'rejected'",
    "                  ) NOT NULL DEFAULT 'pending',",
    "    created_at    DATETIME NOT NULL DEFAULT CURRENT_TIMESTAMP,",
    "    confirmed_at  DATETIME NULL,",
    "    FOREIGN KEY (reseller_id) REFERENCES resellers(id) ON DELETE CASCADE,",
    "    FOREIGN KEY (customer_id) REFERENCES customers(id) ON DELETE CASCADE",
    ") ENGINE=InnoDB;"]

def paymentMethodsFile : MigrationFile :=
  .ofLines "0004_migration_payment_methods.sql" [
    "-- ==========================================================================",
    "-- Migration: «روش دریافت وجه از مشتری» به‌صورت چند کارت مستقل + مرچنت زرین‌پال",
    "-- اختصاصی هر نماینده — جایگزین رویکرد قبلی (یک ستون card_number روی resellers).",
    "--",
    "-- اگر تازه داری دیتابیس رو از صفر می‌سازی، لازم نیست این فایل رو اجرا کنی؛",
    "-- schema.sql به‌روز شده و این جدول رو از اول داره.",
    "--",
    "-- اگر قبلاً migration_add_card_number.sql (نسخه‌ی قبلی) رو اجرا کرده بودی،",
    "-- همین یک فایل کافیه؛ خودش کارت قبلی رو منتقل و ستون‌های قدیمی رو حذف می‌کند:",
    "--   mysql -h $DB_HOST -u $DB_USER -p $DB_NAME < database/migration_payment_methods.sql",
    "-- ==========================================================================",
    "",
    "CREATE TABLE IF NOT EXISTS reseller_payment_cards (",
    "    id                INT AUTO_INCREMENT PRIMARY KEY,",
    "    reseller_id       INT NOT NULL,",
    "    card_number       VARCHAR(32) NOT NULL,",
    "    card_holder_name  VARCHAR(64) NOT NULL,",
    "    bank_name         VARCHAR(64) NULL,",
    "    is_active         BOOLEAN NOT NULL DEFAULT TRUE,",
    "    created_at        DATETIME NOT NULL DEFAULT CURRENT_TIMESTAMP,",
    "    FOREIGN KEY (reseller_id) REFERENCES resellers(id) ON DELETE CASCADE",
    ") ENGINE=InnoDB;",
    "",
    "ALTER TABLE resellers",
    "    ADD COLUMN IF NOT EXISTS zarinpal_merchant_id VARCHAR(64) NULL AFTER support_contact;",
    "",
    "-- اگر ستون‌های قدیمی card_number/card_holder_name روی resellers وجود دارن",
    "-- (یعنی migration قبلی رو اجرا کرده بودی)، دیتاشون رو منتقل کن و بعد حذفشون کن:",
    "INSERT INTO reseller_payment_cards (reseller_id, card_number, card_holder_name, is_active)",
    "SELECT id, card_number, card_holder_name, TRUE",
    "FROM resellers",
    "WHERE card_number IS NOT NULL;",
    "",
    "ALTER TABLE resellers DROP COLUMN IF EXISTS card_number;",
    "ALTER TABLE resellers DROP COLUMN IF EXISTS card_holder_name;"]

def insufficientCreditFile : MigrationFile :=
  .ofLines "0005_migration_add_failed_insufficient_credit_status.sql" [
    "-- ==========================================================================",
    "-- Migration: افزودن وضعیت 'failed_insufficient_credit' به ستون orders.status",
    "-- (رفع باگ اتمیک‌نبودن کسر کمیسیون + تغییر وضعیت سفارش)",
    "--",
    "-- اگر تازه داری دیتابیس رو از صفر می‌سازی، لازم نیست این فایل رو اجرا کنی؛",
    "-- schema.sql به‌روز شده و این مقدار رو از اول تو ENUM داره.",
    "--",
    "-- اگر قبلاً schema.sql قدیمی رو اجرا کرده بودی، همین یک فایل رو اجرا کن:",
    "--   mysql -h $DB_HOST -u $DB_USER -p $DB_NAME < database/migration_add_failed_insufficient_credit_status.sql",
    "--",
    "-- نکته: چون MySQL برای MODIFY COLUMN روی ENUM نیاز داره کل لیست مقادیر رو",
    "-- دوباره بنویسی، همه‌ی مقادیر قبلی + مقدار جدید اینجا تکرار شده‌اند.",
    "-- ==========================================================================",
    "",
    "ALTER TABLE orders",
    "    MODIFY COLUMN status ENUM(",
    "        'awaiting_payment',",
    "        'awaiting_receipt_review',",
    "        'confirmed',",
    "        'activated',",
    "        'rejected',",
    "        'refund_pending',",
    "        'refunded',",
    "        'failed_insufficient_credit'",
    "    ) NOT NULL DEFAULT 'awaiting_payment';"]

def orderPhoneFile : MigrationFile :=
  .ofLines "0006_migration_add_order_phone_number.sql" [
    "-- Migration: شماره تلفن (خط) مقصد فعال‌سازی بسته روی سفارش",
    "-- روی دیتابیس‌های قبلاً ساخته‌شده اجرا کنید.",
    "-- نیازمند MySQL 8.0.29+ برای ADD COLUMN IF NOT EXISTS. اگر نسخه قدیمی‌تر دارید",
    "-- و خطا گرفتید، بخش IF NOT EXISTS را حذف کنید (فقط یک‌بار قابل اجراست).",
    "",
    "ALTER TABLE orders",
    "    ADD COLUMN IF NOT EXISTS phone_number VARCHAR(20) NULL",
    "    COMMENT 'شماره خطی که نماینده باید بسته را روی آن فعال کند (وارد شده توسط مشتری هنگام خرید)';"]

open Migrator ChargeService

/-- The statement by which catalogs get their kinds. -/
def addCatalogType : String :=
  "ALTER TABLE categories ADD COLUMN IF NOT EXISTS catalog_type ENUM('package','charge') NOT NULL DEFAULT 'package'"

set_option maxRecDepth 2000 in
theorem phase4Lines_areLines : ∀ line ∈ phase4Lines, IsLine line.toList := by
  simp only [phase4Lines, List.forall_mem_cons]
  repeat' apply And.intro
  all_goals first
    | exact isLine_ofList (by decide +kernel)
    | simp

set_option maxRecDepth 2000 in
theorem phase4Lines_comments :
    ∀ line ∈ phase4Lines.take 17, isKept line.toList = false := by
  simp only [phase4Lines, List.take_succ_cons, List.take_zero,
    List.forall_mem_cons]
  repeat' apply And.intro
  all_goals first
    | exact not_isKept_ofList (by decide +kernel)
    | simp

theorem addCatalogType_mem : addCatalogType ∈ phase4File.statements := by
  obtain ⟨statement, isText, whole, stripped, some, kept, line⟩ :
      ∃ statement, addCatalogType = String.ofList statement ∧
        ';' ∉ statement ∧ strip statement = statement ∧
        statement ≠ [] ∧ isKept (statement ++ [';']) = true ∧
        phase4Lines[17]? = some (String.ofList (statement ++ [';'])) := by
    refine ⟨_, (rfl : addCatalogType = String.ofList _), ?_, ?_, ?_, ?_, rfl⟩
    all_goals decide +kernel
  rw [isText]
  exact @mem_statements_ofLines "0002_schema_phase4.sql" phase4Lines
    statement 17 phase4Lines_areLines phase4Lines_comments line kept whole
    stripped some

/-- The directory as it is shipped. -/
def shippedFiles : List MigrationFile :=
  [phase3File, phase4File, customerWalletFile, paymentMethodsFile,
    insufficientCreditFile, orderPhoneFile]

end Baste
